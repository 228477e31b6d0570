import SwapWatch.Decimal
import SwapWatch.Text.Hex

/-!
# Numbers in text

Readers for numbers that people type, with ASCII digits and single underscores between them. A whole
number may have a fraction of zeros. It may start with zeros and any number of underscores after the
first of them, and its minus sign may stand behind these; behind a minus sign no such zeros stand.
-/

set_option autoImplicit false

namespace SwapWatch.Text.Number

def signed? (magnitude? : List Char → Option Nat) : List Char → Option Int
  | '-' :: chars => (magnitude? chars).map fun value => -(value : Int)
  | '+' :: chars => (magnitude? chars).map fun value => (value : Int)
  | chars => (magnitude? chars).map fun value => (value : Int)

def digit? (char : Char) : Option Nat :=
  if char.isDigit then some (char.toNat - 48) else none

def spanDigits (chars : List Char) : List Nat × List Char :=
  (chars.takeWhile Char.isDigit |>.filterMap digit?, chars.dropWhile Char.isDigit)

def ofDigits (digits : List Nat) : Nat :=
  digits.foldl (fun sum digit => 10 * sum + digit) 0

def wellGrouped : List Char → Bool
  | [] => true
  | ['_'] => false
  | '_' :: '_' :: _ => false
  | _ :: chars => wellGrouped chars

/-- The characters without their underscores, if these stand one by one between other characters. -/
def ungroup? (chars : List Char) : Option (List Char) :=
  if chars.head? ≠ some '_' ∧ wellGrouped chars then some (chars.filter (· ≠ '_')) else none

/-- The characters after zeros and underscores, the last of which is given. That one stays in front of
a point and at the end of the text. -/
def afterZeros? (last : Char) : List Char → Option (List Char)
  | [] => some [last]
  | char :: chars =>
    if char = '0' ∨ char = '_' then afterZeros? char chars
    else if char = '.' then some (last :: char :: chars)
    else if char = '-' ∨ char.isDigit then some (char :: chars)
    else none

def dropZeros? : List Char → Option (List Char)
  | [] => none
  | char :: chars =>
    if char = '0' then afterZeros? char chars
    else if char = '-' ∨ char.isDigit then some (char :: chars)
    else none

/-- The characters before a fraction of zeros, or all of them if there is no such fraction. -/
def dropZeroFraction (chars : List Char) : List Char :=
  match chars.dropWhile (· ≠ '.') with
  | '.' :: fraction =>
    if !fraction.isEmpty && fraction.all (· = '0') then chars.takeWhile (· ≠ '.') else chars
  | _ => chars

inductive Flaw where
  | form
  | size
deriving DecidableEq, Repr

/-- The most characters that a whole number has, its minus sign included. -/
def maxLength : Nat := 4300

/-- The number of digits alone, after as many characters for its sign as given. Zero has one digit,
and no other number starts with it. -/
def magnitude (signLength : Nat) (chars : List Char) : Except Flaw Nat :=
  let (digits, rest) := spanDigits chars
  match digits with
  | [] => .error .form
  | 0 :: more => if more.isEmpty && rest.isEmpty then .ok 0 else .error .form
  | digits =>
    if maxLength < signLength + digits.length then .error .size
    else if rest.isEmpty then .ok (ofDigits digits)
    else .error .form

def plain : List Char → Except Flaw Int
  | '-' :: chars => (magnitude 1 chars).map fun value => -(value : Int)
  | chars => (magnitude 0 chars).map fun value => (value : Int)

def unsigned (chars : List Char) : Except Flaw Int :=
  match (dropZeros? chars).map dropZeroFraction with
  | some chars => plain ((ungroup? chars).getD chars)
  | none => .error .form

def whole (text : String) : Except Flaw Int :=
  match trimWith isWhiteSpace text.toList with
  | '+' :: '-' :: _ => .error .form
  | '+' :: chars => unsigned chars
  | chars => unsigned chars

def exponent? : List Char → Option Int
  | [] => some 0
  | letter :: chars =>
    if letter = 'e' ∨ letter = 'E' then
      signed? (fun digits =>
        if digits.isEmpty ∨ !digits.all Char.isDigit then none
        else some (ofDigits (spanDigits digits).1)) chars
    else none

def unsignedDecimal? (negative : Bool) (chars : List Char) : Option Decimal.Scientific :=
  let (whole, rest) := spanDigits chars
  let (fraction, rest) := match rest with
    | '.' :: rest => spanDigits rest
    | rest => ([], rest)
  if whole.isEmpty && fraction.isEmpty then none
  else
    (exponent? rest).map fun exponent =>
      ⟨negative, ofDigits (whole ++ fraction), exponent - fraction.length⟩

/-- A float without its sign: a decimal, or one of the names of infinity and of no number. -/
def unsignedFloat? (negative : Bool) (chars : List Char) : Option Float :=
  let name := String.ofList (chars.map Char.toLower)
  let sign : Float := if negative then -1.0 else 1.0
  if name = "inf" ∨ name = "infinity" then some (sign / 0.0)
  else if name = "nan" then some (0.0 / 0.0)
  else (unsignedDecimal? negative chars).map Decimal.Scientific.nearest

def float? : List Char → Option Float
  | '-' :: chars => unsignedFloat? true chars
  | '+' :: chars => unsignedFloat? false chars
  | chars => unsignedFloat? false chars

/-- A float. Blanks may stand around it unless underscores group its digits. -/
def real? (text : String) : Option Float :=
  match float? (trimWith isWhiteSpace text.toList) with
  | some value => some value
  | none => (ungroup? text.toList).bind float?

end SwapWatch.Text.Number
