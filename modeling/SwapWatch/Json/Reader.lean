import SwapWatch.Entries
import SwapWatch.Json.Basic
import SwapWatch.Text.Hex
import SwapWatch.Text.Number

/-!
# Reading JSON text

The names of infinity and of no number are admitted as numbers. Of two fields with one name the
later value counts. Whole numbers have a greatest length, which says nothing about their form.
-/

set_option autoImplicit false

namespace SwapWatch.Json.Reader

open Text (Point Points)

inductive Flaw where
  | form
  /-- A whole number has so many digits. -/
  | digits (count : Nat)
deriving DecidableEq, Repr

def Flaw.message : Flaw → String
  | form => "the text is not JSON"
  | digits count =>
    s!"Exceeds the limit ({maxDigits} digits) for integer string conversion: value has {count} " ++
      "digits; use sys.set_int_max_str_digits() to increase the limit"

/-- What was read, or a flaw in the form of the text. -/
def inForm {α : Type} : Option (α × Points) → Except Flaw (α × Points)
  | some read => .ok read
  | none => .error .form

def isBlank (point : Point) : Bool :=
  point = .char ' ' || point = .char '\t' || point = .char '\n' || point = .char '\r'

def skip (points : Points) : Points :=
  points.dropWhile isBlank

def unit? : Points → Option (Nat × Points)
  | .char c0 :: .char c1 :: .char c2 :: .char c3 :: points => do
    let d0 ← Hex.digit? c0
    let d1 ← Hex.digit? c1
    let d2 ← Hex.digit? c2
    let d3 ← Hex.digit? c3
    some (4096 * d0 + 256 * d1 + 16 * d2 + d3, points)
  | _ => none

def simpleEscape? (char : Char) : Option Char :=
  if char = '"' ∨ char = '\\' ∨ char = '/' then some char
  else if char = 'b' then some (Char.ofNat 8)
  else if char = 'f' then some (Char.ofNat 12)
  else if char = 'n' then some '\n'
  else if char = 'r' then some '\r'
  else if char = 't' then some '\t'
  else none

def escapedLow? : Points → Option (Nat × Points)
  | .char '\\' :: .char 'u' :: points => (unit? points).filter fun (unit, _) => Point.isLow unit
  | _ => none

/-- The point of one or two escaped UTF-16 units. -/
def escapedUnits? (points : Points) : Option (Point × Points) := do
  let (unit, rest) ← unit? points
  match (escapedLow? rest).filter fun _ => Point.isHigh unit with
  | some (low, rest) => some (Point.join unit low, rest)
  | none => some (Point.ofUnit unit, rest)

def text? : Nat → Points → Option (Points × Points)
  | 0, _ => none
  | _ + 1, [] => none
  | fuel + 1, .half half :: points => do
    let (value, rest) ← text? fuel points
    some (.half half :: value, rest)
  | fuel + 1, .char char :: points =>
    if char = '"' then some ([], points)
    else if char.toNat < 32 then none
    else if char = '\\' then
      match points with
      | .char 'u' :: points => do
        let (first, points) ← escapedUnits? points
        let (value, rest) ← text? fuel points
        some (first :: value, rest)
      | .char letter :: points => do
        let first ← simpleEscape? letter
        let (value, rest) ← text? fuel points
        some (.char first :: value, rest)
      | _ => none
    else do
      let (value, rest) ← text? fuel points
      some (.char char :: value, rest)

def fraction (chars : List Char) : List Nat × List Char :=
  match chars with
  | '.' :: rest => if (Text.Number.spanDigits rest).1.isEmpty then ([], chars)
    else Text.Number.spanDigits rest
  | _ => ([], chars)

def exponent? (chars : List Char) : Option (Int × List Char) :=
  match chars with
  | letter :: rest =>
    if letter = 'e' ∨ letter = 'E' then
      let (negative, rest) := match rest with
        | '-' :: rest => (true, rest)
        | '+' :: rest => (false, rest)
        | rest => (false, rest)
      let (digits, rest) := Text.Number.spanDigits rest
      if digits.isEmpty then none
      else
        let size : Int := Text.Number.ofDigits digits
        some (if negative then -size else size, rest)
    else none
  | [] => none

/-- A number after its sign. A zero stands alone in front of the point. -/
def number (negative : Bool) (chars : List Char) : Except Flaw (Json × List Char) :=
  let (whole, rest) := match chars with
    | '0' :: rest => ([0], rest)
    | chars => Text.Number.spanDigits chars
  if whole.isEmpty then .error .form
  else
    let (digits, rest) := fraction rest
    let exponent := exponent? rest
    if digits.isEmpty ∧ exponent.isNone then
      if maxDigits < whole.length then .error (.digits whole.length)
      else
        let size : Int := Text.Number.ofDigits whole
        .ok (.int (if negative then -size else size), rest)
    else
      let (shift, rest) := exponent.getD (0, rest)
      .ok (.real (Decimal.Scientific.nearest
        ⟨negative, Text.Number.ofDigits (whole ++ digits), shift - digits.length⟩), rest)

def word? (word : String) (chars : List Char) : Option (List Char) :=
  if word.toList.isPrefixOf chars then some (chars.drop word.length) else none

def constant? (chars : List Char) : Option (Json × List Char) :=
  (word? "null" chars).map (.null, ·) <|>
  (word? "true" chars).map (.bool true, ·) <|>
  (word? "false" chars).map (.bool false, ·) <|>
  (word? "NaN" chars).map (.real (0.0 / 0.0), ·) <|>
  (word? "Infinity" chars).map (.real (1.0 / 0.0), ·) <|>
  (word? "-Infinity" chars).map (.real (-1.0 / 0.0), ·)

def isAtomic (char : Char) : Bool :=
  char.isAlphanum || char = '+' || char = '-' || char = '.'

/-- The characters of the number or the word in front of a text. -/
def atomChars : Points → List Char
  | .char char :: points => if isAtomic char then char :: atomChars points else []
  | _ => []

def atomIn (chars : List Char) : Except Flaw (Json × List Char) :=
  match constant? chars, chars with
  | some read, _ => .ok read
  | none, '-' :: chars => number true chars
  | none, chars => number false chars

def atom (points : Points) : Except Flaw (Json × Points) :=
  let chars := atomChars points
  (atomIn chars).map fun (value, rest) => (value, points.drop (chars.length - rest.length))

def string (points : Points) : Except Flaw (Points × Points) :=
  inForm (text? (points.length + 1) points)

mutual

def value : Nat → Points → Except Flaw (Json × Points)
  | 0, _ => .error .form
  | fuel + 1, points =>
    match points with
    | .char '"' :: points => (string points).map fun (value, rest) => (.text value, rest)
    | .char '[' :: points =>
      match skip points with
      | .char ']' :: rest => .ok (.list [], rest)
      | rest => (items fuel rest).map fun (items, rest) => (.list items, rest)
    | .char '\x7b' :: points =>
      match skip points with
      | .char '\x7d' :: rest => .ok (.record [], rest)
      | rest => (fields fuel [] rest).map fun (fields, rest) => (.record fields, rest)
    | points => atom points

def items : Nat → Points → Except Flaw (List Json × Points)
  | 0, _ => .error .form
  | fuel + 1, points => do
    let (item, rest) ← value fuel points
    match skip rest with
    | .char ',' :: rest => do
      let (items, rest) ← items fuel (skip rest)
      return (item :: items, rest)
    | .char ']' :: rest => return ([item], rest)
    | _ => .error .form

/-- The fields of a record up to its closing brace, after those already read. -/
def fields : Nat → List (Points × Json) → Points → Except Flaw (List (Points × Json) × Points)
  | 0, _, _ => .error .form
  | fuel + 1, known, points =>
    match points with
    | .char '"' :: points => do
      let (name, rest) ← string points
      match skip rest with
      | .char ':' :: rest => do
        let (value, rest) ← value fuel (skip rest)
        let known := Entries.set name value known
        match skip rest with
        | .char ',' :: rest => fields fuel known (skip rest)
        | .char '\x7d' :: rest => return (known, rest)
        | _ => .error .form
      | _ => .error .form
    | _ => .error .form

end

end SwapWatch.Json.Reader

namespace SwapWatch.Json

def ofPoints (points : Text.Points) : Except Reader.Flaw Json := do
  let (value, rest) ← Reader.value (2 * points.length + 2) (Reader.skip points)
  if (Reader.skip rest).isEmpty then return value else throw .form

def read? (text : String) : Option Json :=
  (ofPoints text).toOption

end SwapWatch.Json
