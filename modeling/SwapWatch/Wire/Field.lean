import SwapWatch.Bytes
import SwapWatch.Wire.Reader

/-!
# Fields of the wire format

Numbers in fields of fixed widths, counts, and byte strings and lists behind their counts.
-/

set_option autoImplicit false

/-!
## Number fields

Numbers are written in fields of a fixed width, lowest byte first. A number that does not fit is
refused with its cause.
-/

namespace SwapWatch.Wire

inductive RangeError where
  /-- The number needs more bytes than the field has. -/
  | tooLarge
  /-- A field without sign was given a negative number. -/
  | negative
  | negativeCount
deriving DecidableEq, Repr

def RangeError.message : RangeError → String
  | tooLarge => "int too big to convert"
  | negative => "can't convert negative int to unsigned"
  | negativeCount => "bytes must be in range(0, 256)"

def unsigned (width : Nat) (value : Int) : Except RangeError Bytes :=
  if value < 0 then .error .negative
  else if value < Nat.pow 256 width then .ok (Endian.ofNat width value.toNat)
  else .error .tooLarge

/-- A number in a field of `width` bytes in two's complement. -/
def signed (width : Nat) (value : Int) : Except RangeError Bytes :=
  if -(Nat.pow 256 width / 2) ≤ value ∧ value < Nat.pow 256 width / 2 then
    .ok (Endian.ofNat width (value % Nat.pow 256 width).toNat)
  else .error .tooLarge

end SwapWatch.Wire

/-!
## Compact sizes

A count below 253 is one byte. A larger one has a marker that says whether two, four or eight bytes
follow. Writing takes the shortest form; reading admits every form.
-/

namespace SwapWatch.Wire.CompactSize

/-- A count in any of the four forms. -/
def read : Reader Nat := do
  let first ← Reader.number 1
  if first < 0xfd then return first
  else if first = 0xfd then Reader.number 2
  else if first = 0xfe then Reader.number 4
  else Reader.number 8

/-- A count in its shortest form. -/
def encode (value : Int) : Except RangeError Bytes :=
  if value < 0 then .error .negativeCount
  else if value < 0xfd then .ok [UInt8.ofNat value.toNat]
  else if value ≤ 0xffff then .ok (0xfd :: Endian.ofNat 2 value.toNat)
  else if value ≤ 0xffffffff then .ok (0xfe :: Endian.ofNat 4 value.toNat)
  else (unsigned 8 value).map (0xff :: ·)

end SwapWatch.Wire.CompactSize

/-!
## Counted values

Byte strings stand after their length, lists after the number of their items. Both counts are
compact sizes.
-/

namespace SwapWatch.Wire

def sized (bytes : Bytes) : Except RangeError Bytes := do
  return (← CompactSize.encode bytes.length) ++ bytes

def readSized : Reader Bytes := do
  Reader.take (← CompactSize.read)

def counted {α : Type} (encode : α → Except RangeError Bytes) (items : List α) :
    Except RangeError Bytes := do
  let count ← CompactSize.encode items.length
  let parts ← items.mapM encode
  return count ++ parts.flatten

def readCounted {α : Type} (reader : Reader α) : Reader (List α) := do
  Reader.many reader (← CompactSize.read)

end SwapWatch.Wire
