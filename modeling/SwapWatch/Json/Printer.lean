import SwapWatch.Decimal
import SwapWatch.Json.Basic
import SwapWatch.Text.Quoted

/-!
# JSON text

A value is shown inside a message or printed as JSON, and not every value can be printed.
-/

set_option autoImplicit false

/-!
## Labels

The text of a value inside a message. A string stands for itself; inside a list or a record it is
quoted.
-/

namespace SwapWatch.Json

open Text (Point Points)

mutual

/-- The text of a value inside a list or a record. -/
def nestedLabel : Json → String
  | null => "None"
  | bool value => if value then "True" else "False"
  | int value => toString value
  | real value => Decimal.shortest value
  | text value => Text.quoted value
  | list items => "[" ++ ", ".intercalate (itemLabels items) ++ "]"
  | record fields => "\x7b" ++ ", ".intercalate (fieldLabels fields) ++ "\x7d"

def itemLabels : List Json → List String
  | [] => []
  | item :: items => nestedLabel item :: itemLabels items

def fieldLabels : List (Points × Json) → List String
  | [] => []
  | (name, value) :: fields => (Text.quoted name ++ ": " ++ nestedLabel value) :: fieldLabels fields

end

def label : Json → Points
  | text value => value
  | value => nestedLabel value

/-!
## Printing

One line, with or without spaces after commas and colons. Controls, quotes and backslashes are
escaped, and where only ASCII is written other points are escaped UTF-16 units.
-/

structure Style where
  comma : String
  colon : String
  /-- Are points outside ASCII escaped? -/
  ascii : Bool

def Style.line : Style := ⟨", ", ": ", true⟩

def Style.compact : Style := ⟨",", ":", false⟩

/-- A UTF-16 unit as an escape. -/
def escapeUnit (unit : Nat) : List Char :=
  '\\' :: 'u' :: Text.Quoted.hexDigits 4 unit

def escapeWide (char : Char) : List Char :=
  if char.toNat < 0x10000 then escapeUnit char.toNat
  else
    let above := char.toNat - 0x10000
    escapeUnit (0xd800 + above / 0x400) ++ escapeUnit (0xdc00 + above % 0x400)

def escapeChar (style : Style) (char : Char) : List Char :=
  if char = '"' ∨ char = '\\' then ['\\', char]
  else if char = '\n' then ['\\', 'n']
  else if char = '\r' then ['\\', 'r']
  else if char = '\t' then ['\\', 't']
  else if char.toNat = 8 then ['\\', 'b']
  else if char.toNat = 12 then ['\\', 'f']
  else if char.toNat < 32 then escapeUnit char.toNat
  else if char.toNat < 128 ∨ !style.ascii then [char]
  else escapeWide char

def escape (style : Style) : Point → Points
  | .char char => (escapeChar style char).map .char
  | .half half => if style.ascii then (escapeUnit half.unit).map .char else [.half half]

def printText (style : Style) (text : Points) : Points :=
  .char '"' :: text.flatMap (escape style) ++ [.char '"']

/-- A float, with the names that stand for infinity and for no number. -/
def printReal (value : Float) : String :=
  if value.isNaN then "NaN"
  else if value.isInf then if value < 0.0 then "-Infinity" else "Infinity"
  else Decimal.shortest value

mutual

def printIn (style : Style) : Json → Points
  | null => "null"
  | bool value => if value then "true" else "false"
  | int value => toString value
  | real value => printReal value
  | text value => printText style value
  | list items => .char '[' :: (style.comma : Points).intercalate (printItems style items) ++ [.char ']']
  | record fields =>
    .char '\x7b' :: (style.comma : Points).intercalate (printFields style fields) ++ [.char '\x7d']

def printItems (style : Style) : List Json → List Points
  | [] => []
  | item :: items => printIn style item :: printItems style items

def printFields (style : Style) : List (Points × Json) → List Points
  | [] => []
  | (name, value) :: fields =>
    (printText style name ++ style.colon ++ printIn style value) :: printFields style fields

end

/-- The text of a value on one line of ASCII. -/
def print (value : Json) : String :=
  (value.printIn .line).shown

/-!
## Strict printing

Where text is strict and sent as UTF-8, a value is refused for its first number that JSON has no word
for or that has too many digits, or else for the first halves in its text.
-/

/-- Why a value is refused. -/
inductive Refusal where
  | notFinite
  | oversized
  | halves (run : Points.Run)
deriving DecidableEq, Repr

def Refusal.message : Refusal → String
  | notFinite => "Out of range float values are not JSON compliant"
  | oversized =>
    s!"Exceeds the limit ({maxDigits} digits) for integer string conversion; " ++
      "use sys.set_int_max_str_digits() to increase the limit"
  | halves run => run.message

mutual

def numberRefusal? : Json → Option Refusal
  | int value => if isShort value then none else some .oversized
  | real value => if value.isFinite then none else some .notFinite
  | list items => itemRefusal? items
  | record fields => fieldRefusal? fields
  | _ => none

def itemRefusal? : List Json → Option Refusal
  | [] => none
  | item :: items => numberRefusal? item <|> itemRefusal? items

def fieldRefusal? : List (Points × Json) → Option Refusal
  | [] => none
  | (_, value) :: fields => numberRefusal? value <|> fieldRefusal? fields

end

/-- Why the value is refused, if it is. -/
def refusal? (value : Json) : Option Refusal :=
  numberRefusal? value <|> (value.printIn .compact).run?.map .halves

end SwapWatch.Json
