import SwapWatch.Entries
import SwapWatch.Text.Encoding
import SwapWatch.Text.Hex

/-!
# Environment files

A file of names and values. A value stands bare up to the end of the line or a comment, or between
quotes and then possibly over several lines; blanks set a comment off, also from an empty value. A
name may follow the word `export`, and a name without an equals sign has no value. A line that cannot
be read is skipped, and so is a byte order mark at the start. Values may refer to variables.
-/

set_option autoImplicit false

namespace SwapWatch.EnvFile

abbrev Entry := String × Option String

def isLineBlank (char : Char) : Bool :=
  Text.isBlank char && char != '\n'

def unifyNewlines : List Char → List Char
  | [] => []
  | '\r' :: '\n' :: chars => '\n' :: unifyNewlines chars
  | '\r' :: chars => '\n' :: unifyNewlines chars
  | char :: chars => char :: unifyNewlines chars

def nextLine (chars : List Char) : List Char :=
  (chars.dropWhile (· ≠ '\n')).drop 1

/-- What a quoted value holds, after its opening quote. The character after a backslash never closes
the value. -/
def quotedValue? (quote : Char) : List Char → Option (List Char × List Char)
  | [] => none
  | '\\' :: char :: chars =>
    (quotedValue? quote chars).map fun (value, rest) => ('\\' :: char :: value, rest)
  | char :: chars =>
    if char = quote then some ([], chars)
    else (quotedValue? quote chars).map fun (value, rest) => (char :: value, rest)

def singleEscape? (char : Char) : Option Char :=
  if char = '\\' ∨ char = '\'' then some char else none

def doubleEscape? (char : Char) : Option Char :=
  if char = '\\' ∨ char = '\'' ∨ char = '"' then some char
  else if char = 'a' then some (Char.ofNat 7)
  else if char = 'b' then some (Char.ofNat 8)
  else if char = 't' then some '\t'
  else if char = 'n' then some '\n'
  else if char = 'v' then some (Char.ofNat 11)
  else if char = 'f' then some (Char.ofNat 12)
  else if char = 'r' then some '\r'
  else none

def unescape (escape? : Char → Option Char) : List Char → List Char
  | [] => []
  | '\\' :: char :: chars =>
    match escape? char with
    | some meant => meant :: unescape escape? chars
    | none => '\\' :: unescape escape? (char :: chars)
  | char :: chars => char :: unescape escape? chars

/-- A bare value without the comment that blanks set off from it. -/
def dropComment : List Char → List Char
  | [] => []
  | char :: chars =>
    if Text.isBlank char && (chars.dropWhile Text.isBlank).head? = some '#' then []
    else char :: dropComment chars

def bareValue (chars : List Char) : List Char :=
  Text.trimWith Text.isBlank (dropComment chars)

/-- A part of an entry and the characters after it, or the characters at which it cannot be read. -/
abbrev Part (α : Type) := Except (List Char) (α × List Char)

def value (chars : List Char) : Part (List Char) :=
  match chars.dropWhile isLineBlank with
  | '\'' :: rest =>
    match quotedValue? '\'' rest with
    | some (quoted, rest) => .ok (unescape singleEscape? quoted, rest)
    | none => .error chars
  | '"' :: rest =>
    match quotedValue? '"' rest with
    | some (quoted, rest) => .ok (unescape doubleEscape? quoted, rest)
    | none => .error chars
  | _ => .ok (bareValue (chars.takeWhile (· ≠ '\n')), chars.dropWhile (· ≠ '\n'))

def dropExport (chars : List Char) : List Char :=
  if "export".toList.isPrefixOf chars then
    let rest := chars.drop 6
    if (rest.head?.map isLineBlank).getD false then rest.dropWhile isLineBlank else chars
  else chars

def isNameChar (char : Char) : Bool :=
  char != '=' && char != '#' && !Text.isBlank char

/-- A name. A comment has none. -/
def name (chars : List Char) : Part (Option (List Char)) :=
  match chars with
  | '#' :: _ => .ok (none, chars)
  | '\'' :: rest =>
    let quoted := rest.takeWhile (· ≠ '\'')
    match rest.dropWhile (· ≠ '\'') with
    | _ :: after => if quoted.isEmpty then .error chars else .ok (some quoted, after)
    | [] => .error chars
  | _ =>
    let bare := chars.takeWhile isNameChar
    if bare.isEmpty then .error chars else .ok (some bare, chars.dropWhile isNameChar)

def lineEnd (chars : List Char) : Part Unit :=
  let afterComment := match chars.dropWhile isLineBlank with
    | '#' :: rest => rest.dropWhile (· ≠ '\n')
    | _ => chars
  match afterComment.dropWhile isLineBlank with
  | [] => .ok ((), [])
  | '\n' :: rest => .ok ((), rest)
  | _ => .error afterComment

/-- An entry. A comment is one without a name. -/
def entry (chars : List Char) : Except (List Char) (Option Entry × List Char) := do
  let (name, rest) ← name (dropExport chars)
  let rest := rest.dropWhile isLineBlank
  let (value, rest) ← match rest with
    | '=' :: rest => do
      let (value, rest) ← value rest
      pure (some value, rest)
    | _ => pure (none, rest)
  let ((), rest) ← lineEnd rest
  return (name.map fun name => (String.ofList name, value.map String.ofList), rest)

/-- The entries of a file. Every entry and every skipped line is at least one character long. -/
def entries : Nat → List Char → List Entry
  | 0, _ => []
  | fuel + 1, chars =>
    match chars.dropWhile Text.isBlank with
    | [] => []
    | start =>
      match entry start with
      | .ok (some entry, rest) => entry :: entries fuel rest
      | .ok (none, rest) => entries fuel rest
      | .error rest => entries fuel (nextLine rest)

/-- A reference to a variable after its opening brace: its name, the default if it has one, and the
characters after it. -/
def reference? (chars : List Char) : Option (List Char × List Char × List Char) :=
  let name := chars.takeWhile fun char => char ≠ '\x7d' ∧ char ≠ ':'
  match chars.dropWhile fun char => char ≠ '\x7d' ∧ char ≠ ':' with
  | '\x7d' :: rest => some (name, [], rest)
  | ':' :: '-' :: rest =>
    match rest.dropWhile (· ≠ '\x7d') with
    | _ :: after => some (name, rest.takeWhile (· ≠ '\x7d'), after)
    | [] => none
  | _ => none

def expand (known : String → Option (Option String)) : Nat → List Char → List Char
  | 0, chars => chars
  | _ + 1, [] => []
  | fuel + 1, '$' :: '\x7b' :: chars =>
    match reference? chars with
    | some (name, fallback, rest) =>
      let meant := match known (String.ofList name) with
        | some value => (value.getD "").toList
        | none => fallback
      meant ++ expand known fuel rest
    | none => '$' :: expand known fuel ('\x7b' :: chars)
  | fuel + 1, char :: chars => char :: expand known fuel chars

inductive Precedence where
  | file
  | environment
deriving DecidableEq, Repr

def seen (precedence : Precedence) (environment : List (String × String)) (above : List Entry)
    (name : String) : Option (Option String) :=
  let outside := (environment.lookup name).map some
  match precedence with
  | .file => above.lookup name <|> outside
  | .environment => outside <|> above.lookup name

/-- Entries with their references resolved, one after another. Of two entries with one name the
later value counts. -/
def resolve (precedence : Precedence) (environment : List (String × String)) :
    List Entry → List Entry → List Entry
  | above, [] => above
  | above, (name, value) :: entries =>
    let resolved := value.map fun value =>
      String.ofList (expand (seen precedence environment above) (value.length + 1) value.toList)
    resolve precedence environment (Entries.set name resolved above) entries

def read (precedence : Precedence) (environment : List (String × String)) (text : String) :
    List Entry :=
  let chars := unifyNewlines (Text.Utf8.dropMark text.toList)
  resolve precedence environment [] (entries (chars.length + 1) chars)

/-- The environment with the values of a file added. Variables that are there already stay. -/
def extend (environment : List (String × String)) (entries : List Entry) : List (String × String) :=
  environment ++ entries.filterMap fun (name, value) =>
    if (environment.lookup name).isSome then none else value.map (name, ·)

end SwapWatch.EnvFile
