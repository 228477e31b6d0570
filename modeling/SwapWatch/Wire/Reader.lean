import SwapWatch.Bytes
import SwapWatch.Text.Hex

/-!
# Readers

Values are read from the front of serialized bytes or at an offset, and what cannot be read is refused.
-/

set_option autoImplicit false

/-!
## Refused bytes

Why a serialized transaction or block is not read.
-/

namespace SwapWatch.Wire

inductive Container where
  | transaction
  | block
deriving DecidableEq, Repr

def Container.word : Container → String
  | transaction => "transaction"
  | block => "block"

inductive DecodeError where
  /-- Bytes were wanted at an offset at which fewer are left. The number left is negative at an
  offset past the end. -/
  | short (wanted offset : Nat) (left : Int)
  | trailing (count : Nat) (container : Container)
  | headerSize (size : Nat)
  | badHex (container : Container) (flaw : Hex.Flaw)
deriving DecidableEq, Repr

def DecodeError.message : DecodeError → String
  | short wanted offset left => s!"Need {wanted} bytes at offset {offset}, only {left} left"
  | trailing count container => s!"{count} trailing bytes after {container.word}"
  | headerSize size => s!"Header must be 80 bytes, got {size}"
  | badHex container flaw => s!"Invalid {container.word} hex: {flaw.message}"

/-!
## Readers

A reader takes a value off the front of a byte string and leaves the rest, or reports that bytes are
missing. It sees nothing of what stands before its input, so the value it reads is the same at
every offset; only the wording of a failure names the offset.
-/

/-- Bytes are missing: how many were wanted, and how many are left. -/
structure Shortage where
  wanted : Nat
  left : Nat
deriving DecidableEq, Repr

abbrev Reader := StateT Bytes (Except Shortage)

namespace Reader

variable {α : Type}

def take (count : Nat) : Reader Bytes := fun bytes =>
  match bytes.splitExact? count with
  | some parts => .ok parts
  | none => .error ⟨count, bytes.length⟩

def number (width : Nat) : Reader Nat := do
  return Endian.toNat (← take width)

/-- The number in the next `width` bytes, in two's complement. -/
def integer (width : Nat) : Reader Int := do
  return Endian.toInt (← take width)

def many (reader : Reader α) : Nat → Reader (List α)
  | 0 => return []
  | count + 1 => do
    let value ← reader
    let values ← many reader count
    return value :: values

def withBytes (reader : Reader α) : Reader (α × Bytes) := fun bytes => do
  let (value, rest) ← reader bytes
  return ((value, bytes.take (bytes.length - rest.length)), rest)

/-- The value at an offset, and the offset after it. -/
def runAt (reader : Reader α) (data : Bytes) (offset : Nat) : Except DecodeError (α × Nat) :=
  match reader (data.drop offset) with
  | .ok (value, rest) => .ok (value, data.length - rest.length)
  | .error shortage =>
    let position := offset + (data.length - offset - shortage.left)
    .error (.short shortage.wanted position (data.length - position))

def runAll (reader : Reader α) (container : Container) (data : Bytes) : Except DecodeError α := do
  let (value, offset) ← reader.runAt data 0
  if offset = data.length then return value
  else throw (.trailing (data.length - offset) container)

/-- The value that a hexadecimal text writes. Blanks around the text are dropped. -/
def runHex (reader : Reader α) (container : Container) (text : String) : Except DecodeError α :=
  match Hex.decode (Text.trim text) with
  | .ok data => reader.runAll container data
  | .error flaw => .error (.badHex container flaw)

end Reader

end SwapWatch.Wire
