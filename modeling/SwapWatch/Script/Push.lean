import SwapWatch.Bytes
import SwapWatch.Script.Op

/-!
# Minimal pushes

Redeem scripts are built from the shortest pushes of data and numbers.
-/

set_option autoImplicit false

/-!
## Script numbers

A number is written as its magnitude, lowest byte first and without zeros at the end. The top bit of
the last byte is the sign; where the magnitude needs that bit a byte is added for the sign.
-/

namespace SwapWatch.Script.Number

/-- The bytes of a magnitude, lowest first, without zeros at the end. -/
def magnitude (value : Nat) : Bytes :=
  if value = 0 then [] else UInt8.ofNat value :: magnitude (value / 256)
termination_by value

/-- The bytes of a magnitude with the sign in the last one. -/
def withSign (negative : Bool) : Bytes → Bytes
  | [] => []
  | [top] =>
    if 0x80 ≤ top then [top, if negative then 0x80 else 0]
    else if negative then [top ||| 0x80]
    else [top]
  | low :: high => low :: withSign negative high

def encode (value : Int) : Bytes :=
  withSign (value < 0) (magnitude value.natAbs)

end SwapWatch.Script.Number

/-!
## Pushes

Data is pushed by the shortest operation with this effect: a code of its own for nothing, for the
bytes one to sixteen and for minus one, and else the narrowest form that has room for the size. Data
of four gibibytes and more has no push.
-/

namespace SwapWatch.Script

def PushForm.narrowest (size : Nat) : PushForm :=
  if size ≤ 75 then direct
  else if size ≤ 0xff then short
  else if size ≤ 0xffff then medium
  else long

/-- The shortest operation that pushes the data. -/
def Op.pushing : Bytes → Op
  | [byte] =>
    if 1 ≤ byte ∧ byte ≤ 16 then plain (0x50 + byte)
    else if byte = 0x81 then plain 0x4f
    else push .direct [byte]
  | data => push (.narrowest data.length) data

def pushData (data : Bytes) : Bytes :=
  (Op.pushing data).encode

def pushNumber (value : Int) : Bytes :=
  pushData (Number.encode value)

end SwapWatch.Script
