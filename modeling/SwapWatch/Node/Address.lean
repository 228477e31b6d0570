import SwapWatch.Bytes
import SwapWatch.Text.Encoding
import SwapWatch.Text.Hex

/-!
# Credentials

The user and the password that a node asks for, as they are sent and as an address may hold them.
-/

set_option autoImplicit false

/-!
## Base64

Three bytes make four characters of a sixty-four letter alphabet; equals signs fill up the last
group.
-/

namespace SwapWatch.Text.Base64

def letter (value : Nat) : Char :=
  if value < 26 then Char.ofNat (65 + value)
  else if value < 52 then Char.ofNat (71 + value)
  else if value < 62 then Char.ofNat (value - 4)
  else if value = 62 then '+'
  else '/'

/-- The characters of the bytes, group by group. -/
def letters : Bytes → List Char
  | [] => []
  | [b0] => [letter (b0.toNat / 4), letter (b0.toNat % 4 * 16), '=', '=']
  | [b0, b1] =>
    [letter (b0.toNat / 4), letter (b0.toNat % 4 * 16 + b1.toNat / 16),
     letter (b1.toNat % 16 * 4), '=']
  | b0 :: b1 :: b2 :: bytes =>
    letter (b0.toNat / 4) :: letter (b0.toNat % 4 * 16 + b1.toNat / 16) ::
      letter (b1.toNat % 16 * 4 + b2.toNat / 64) :: letter (b2.toNat % 64) :: letters bytes

def encode (bytes : Bytes) : String :=
  String.ofList (letters bytes)

end SwapWatch.Text.Base64

/-!
## Addresses

The authority in the address of a node may start with credentials: a user, and after a colon a
password, up to the last at sign. In them a percent sign with two hexadecimal digits stands for a
byte.
-/

namespace SwapWatch.Address

def isSchemeChar (char : Char) : Bool :=
  char.isAlphanum || char = '+' || char = '.' || char = '-'

/-- The characters after the scheme, or all of them if there is none. -/
def afterScheme (chars : List Char) : List Char :=
  let scheme := chars.takeWhile isSchemeChar
  match chars.dropWhile isSchemeChar with
  | ':' :: rest => if (scheme.head?.map Char.isAlpha).getD true then rest else chars
  | _ => chars

def authority? (chars : List Char) : Option (List Char) :=
  match afterScheme chars with
  | '/' :: '/' :: rest => some (rest.takeWhile fun char => char ≠ '/' ∧ char ≠ '?' ∧ char ≠ '#')
  | _ => none

/-- What stands in front of the last at sign. -/
def userInfo? (authority : List Char) : Option (List Char) :=
  match authority.reverse.dropWhile (· ≠ '@') with
  | _ :: front => some front.reverse
  | [] => none

/-- The bytes of a text with escapes. A percent sign without two digits stands for itself. -/
def bytes : List Char → Bytes
  | '%' :: first :: second :: chars =>
    match Hex.digit? first, Hex.digit? second with
    | some high, some low => UInt8.ofNat (16 * high + low) :: bytes chars
    | _, _ => String.utf8EncodeChar '%' ++ bytes (first :: second :: chars)
  | char :: chars => String.utf8EncodeChar char ++ bytes chars
  | [] => []

def unescape (chars : List Char) : String :=
  String.ofList (Text.Utf8.decode (bytes chars))

/-- User and password in an address, if one of them is not empty. -/
def credentials? (address : String) : Option (String × String) := do
  let info ← (authority? address.toList).bind userInfo?
  let user := info.takeWhile (· ≠ ':')
  let password := (info.dropWhile (· ≠ ':')).drop 1
  if user.isEmpty && password.isEmpty then none else some (unescape user, unescape password)

end SwapWatch.Address
