import SwapWatch.Bytes

/-!
# Hexadecimal text

Bytecode, ids and serialized data are typed and shown in hexadecimal digits.
-/

set_option autoImplicit false

/-!
## Blank characters

The Unicode blanks, with the four ASCII information separators among them. They are what is cut
off the ends of a text; the zero-width characters are not blank.
-/

namespace SwapWatch.Text

def isBlank (char : Char) : Bool :=
  let code := char.toNat
  (9 ≤ code && code ≤ 13) || (28 ≤ code && code ≤ 32) || code == 0x85 || code == 0xa0 ||
    code == 0x1680 || (0x2000 ≤ code && code ≤ 0x200a) || code == 0x2028 || code == 0x2029 ||
    code == 0x202f || code == 0x205f || code == 0x3000

/-- A blank that Unicode itself counts as white space: not an information separator. -/
def isWhiteSpace (char : Char) : Bool :=
  isBlank char && !(28 ≤ char.toNat && char.toNat ≤ 31)

def trimWith (drop : Char → Bool) (chars : List Char) : List Char :=
  ((chars.dropWhile drop).reverse.dropWhile drop).reverse

def trim (text : String) : String :=
  String.ofList (trimWith isBlank text.toList)

end SwapWatch.Text

/-!
## Bytes as digits

Bytes are written with two lower-case digits each. Reading takes either case and admits blanks
between bytes, never inside a pair; it says where a text stops being hexadecimal. A character
outside ASCII is reported before any other flaw.
-/

namespace SwapWatch.Hex

def digit (value : Nat) : Char :=
  if value < 10 then Char.ofNat (48 + value) else Char.ofNat (87 + value)

def digit? (char : Char) : Option Nat :=
  if '0' ≤ char ∧ char ≤ '9' then some (char.toNat - 48)
  else if 'a' ≤ char ∧ char ≤ 'f' then some (char.toNat - 87)
  else if 'A' ≤ char ∧ char ≤ 'F' then some (char.toNat - 55)
  else none

def digits : Bytes → List Char
  | [] => []
  | byte :: bytes => digit (byte.toNat / 16) :: digit (byte.toNat % 16) :: digits bytes

def encode (bytes : Bytes) : String :=
  String.ofList (digits bytes)

/-- The text of an identifier, which is shown last byte first. -/
def encodeReversed (bytes : Bytes) : String :=
  encode bytes.reverse

/-- The blanks that may stand between two bytes. -/
def isGap (char : Char) : Bool :=
  char = ' ' || (9 ≤ char.toNat && char.toNat ≤ 13)

/-- The position at which a text stops being hexadecimal. -/
structure Flaw where
  position : Nat
deriving DecidableEq, Repr

def Flaw.message (flaw : Flaw) : String :=
  s!"non-hexadecimal number found in fromhex() arg at position {flaw.position}"

def decodeFrom (position : Nat) : List Char → Except Flaw Bytes
  | [] => .ok []
  | high :: chars =>
    if isGap high then decodeFrom (position + 1) chars
    else
      match digit? high, chars with
      | none, _ => .error ⟨position⟩
      | some _, [] => .error ⟨position + 1⟩
      | some top, low :: chars =>
        match digit? low with
        | none => .error ⟨position + 1⟩
        | some bottom => do
          let bytes ← decodeFrom (position + 2) chars
          return UInt8.ofNat (16 * top + bottom) :: bytes

def decode (text : String) : Except Flaw Bytes :=
  match text.toList.findIdx? (fun char => 128 ≤ char.toNat) with
  | some position => .error ⟨position⟩
  | none => decodeFrom 0 text.toList

def dropMark (text : String) : String :=
  match text.toList with
  | '0' :: mark :: chars => if mark = 'x' ∨ mark = 'X' then String.ofList chars else text
  | _ => text

end SwapWatch.Hex
