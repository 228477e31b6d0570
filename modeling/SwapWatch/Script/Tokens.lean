import SwapWatch.Script.Op
import SwapWatch.Text.Hex

/-!
# Tokens of a script

A script is cut into operations from the front. It is refused when a marker lacks its size or when a
push lacks some of its data.
-/

set_option autoImplicit false

namespace SwapWatch.Script

inductive Error where
  /-- The script ends within the size after a marker. -/
  | missingSize (code : UInt8) (offset : Nat)
  | missingData (code : UInt8) (size left : Nat)
deriving DecidableEq, Repr

def Error.message : Error → String
  | missingSize code offset =>
    let name := opName code.toNat
    s!"{name} at offset {offset} is missing its length"
  | missingData code size left =>
    let name := opName code.toNat
    s!"{name} pushes {size} bytes but only {left} remain"

def readData (code : UInt8) (form : PushForm) (size : Nat) (rest : Bytes) :
    Except Error (Op × Bytes) :=
  match rest.splitExact? size with
  | some (data, rest) => .ok (.push form data, rest)
  | none => .error (.missingData code size rest.length)

/-- The operation that starts with `code` at `offset`, and the rest. -/
def readOp (offset : Nat) (code : UInt8) (rest : Bytes) : Except Error (Op × Bytes) :=
  if code ≤ 75 then readData code .direct code.toNat rest
  else
    match PushForm.ofMarker? code with
    | none => .ok (.plain code, rest)
    | some form =>
      match rest.splitExact? form.width with
      | none => .error (.missingSize code offset)
      | some (size, rest) => readData code form (Endian.toNat size) rest

theorem readData_length {code : UInt8} {form : PushForm} {size : Nat} {rest tail : Bytes} {op : Op}
    (found : readData code form size rest = .ok (op, tail)) : tail.length ≤ rest.length := by
  unfold readData at found
  split at found
  · next data back cut =>
    simp only [Except.ok.injEq, Prod.mk.injEq] at found
    obtain ⟨rfl, rfl⟩ := found
    obtain ⟨_, rfl⟩ := Bytes.splitExact?_eq_some_iff.mp cut
    simp
  · cases found

theorem readOp_length {offset : Nat} {code : UInt8} {rest tail : Bytes} {op : Op}
    (found : readOp offset code rest = .ok (op, tail)) : tail.length ≤ rest.length := by
  unfold readOp at found
  split at found
  · exact readData_length found
  · split at found
    · cases found
      exact Nat.le_refl _
    · split at found
      · cases found
      · next size back cut =>
        obtain ⟨_, rfl⟩ := Bytes.splitExact?_eq_some_iff.mp cut
        have shorter := readData_length found
        simp only [List.length_append]
        omega

/-- The operations of a script that starts at `offset`. -/
def parseFrom (offset : Nat) (script : Bytes) : Except Error (List Op) :=
  match script with
  | [] => .ok []
  | code :: rest =>
    match found : readOp offset code rest with
    | .error error => .error error
    | .ok (op, tail) =>
      have := readOp_length found
      (parseFrom (offset + op.size) tail).map (op :: ·)
termination_by script.length
decreasing_by
  simp only [List.length_cons]
  omega

@[simp]
theorem parseFrom_nil (offset : Nat) : parseFrom offset [] = .ok [] := by
  rw [parseFrom]

theorem parseFrom_cons (offset : Nat) (code : UInt8) (rest : Bytes) :
    parseFrom offset (code :: rest) = (readOp offset code rest).bind fun (op, tail) =>
      (parseFrom (offset + op.size) tail).map (op :: ·) := by
  rw [parseFrom]
  split
  · next failed => rw [failed]; rfl
  · next op tail found =>
    change (parseFrom (offset + op.size) tail).map (op :: ·) = _
    rw [found]
    rfl

def parse (script : Bytes) : Except Error (List Op) :=
  parseFrom 0 script

/-- The data that a script pushes, in order. An empty push counts; codes that push a number do
not. -/
def pushedData (script : Bytes) : Except Error (List Bytes) :=
  (parse script).map (·.filterMap Op.data?)

/-!
## Disassembly

One line for a script, with a space between operations. Small numbers are written as numbers, pushed
data as hexadecimal text and every other operation by its name.
-/

/-- The text of an operation. An empty push after a marker has no text. -/
def Op.glyphs : Op → List Char
  | push .direct [] => ['0']
  | push _ data => Hex.digits data
  | plain code =>
    if code = 0x4f then ['-', '1']
    else if 0x51 ≤ code ∧ code ≤ 0x60 then (toString (code.toNat - 0x50)).toList
    else (opName code.toNat).toList

def line (ops : List Op) : String :=
  String.ofList ([' '].intercalate (ops.map Op.glyphs))

def disassemble (script : Bytes) : Except Error String :=
  (parse script).map line

/-!
## Templates

The two output templates that a deposit uses, and the test whether a script ends with given bytes.
-/

def lockToHash (hash : Bytes) : Bytes :=
  0xa9 :: 0x14 :: hash ++ [0x87]

def lockedHash? : Bytes → Option Bytes
  | code :: size :: body =>
    if code = 0xa9 ∧ size = 0x14 ∧ body.length = 21 ∧ body[20]? = some 0x87 then
      some (body.take 20)
    else none
  | _ => none

/-- The data that an output without value carries, if it is one and can be cut into operations. -/
def carriedData? : Bytes → Option (List Bytes)
  | [] => none
  | code :: rest => if code = 0x6a then (pushedData (code :: rest)).toOption else none

/-- Does the script end with the bytecode? Empty bytecode ends nothing. -/
def endsWith (script bytecode : Bytes) : Bool :=
  !bytecode.isEmpty && bytecode.isSuffixOf script

end SwapWatch.Script
