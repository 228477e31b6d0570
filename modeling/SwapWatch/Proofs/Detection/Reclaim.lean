import SwapWatch.Proofs.Detection.Spend

/-!
# Reclaims by their operations

Reclaims are looked for in the disassembled line of a script. The line has one piece for each
operation, and only the code of one is shown as the selector, so the search agrees with a rule about
the operations themselves: there are two, and the first one is the code of one.
-/

set_option autoImplicit false

namespace SwapWatch.Spend

open Script (Op)

theorem glyphs_eq_one_iff_code {op : Op} (formed : op.WellFormed) :
    op.glyphs = ['1'] ↔ op.code = 0x51 := by
  rw [Op.glyphs_eq_one_iff]
  constructor
  · intro plain
    rw [plain]
    rfl
  · intro code
    exact Op.eq_plain_of_code formed code (by decide)

theorem isReclaim_iff_ops {script bytecode : Bytes} :
    isReclaim script bytecode = true ↔ bytecode ≠ [] ∧ bytecode <:+ script ∧
      ∃ first second, Script.parse script = .ok [first, second] ∧ first.code = 0x51 := by
  rw [isReclaim_iff, Script.endsWith_iff, and_assoc]
  constructor
  · intro reclaims
    obtain ⟨nonempty, ends, op, parsed⟩ := reclaims
    exact ⟨nonempty, ends, .plain 0x51, op, parsed, rfl⟩
  · intro two
    obtain ⟨nonempty, ends, first, second, parsed, code⟩ := two
    have formed := (Script.parse_eq_ok_iff.mp parsed).1 first (.head _)
    rw [Op.eq_plain_of_code formed code (by decide)] at parsed
    exact ⟨nonempty, ends, second, parsed⟩

theorem isReclaim_of_code_ne {script bytecode : Bytes} {first : Op} {others : List Op}
    (parsed : Script.parse script = .ok (first :: others)) (other : first.code ≠ 0x51) :
    isReclaim script bytecode = false := by
  rw [Bool.eq_false_iff]
  intro reclaims
  obtain ⟨-, -, first', second, parsed', code⟩ := isReclaim_iff_ops.mp reclaims
  obtain ⟨rfl, -⟩ := List.cons.inj (Except.ok.inj (parsed.symm.trans parsed'))
  exact other code

/-- A script reclaims exactly if it ends with the bytecode and is cut into two operations, the first
with the code of one. No other operation in first place is taken for the selector, since none is
shown like it, and the line of at least one operation has one piece for each, in order. -/
theorem reclaims_by_operations :
    (∀ script bytecode : Bytes, isReclaim script bytecode = true ↔
      bytecode ≠ [] ∧ bytecode <:+ script ∧
        ∃ first second, Script.parse script = .ok [first, second] ∧ first.code = 0x51) ∧
    (∀ (script bytecode : Bytes) (first : Op) (others : List Op),
      Script.parse script = .ok (first :: others) → first.code ≠ 0x51 →
        isReclaim script bytecode = false) ∧
    (∀ op : Op, op.WellFormed → (op.glyphs = ['1'] ↔ op.code = 0x51)) ∧
    ∀ ops : List Op, ops ≠ [] → (Script.line ops).toList.splitOn ' ' = ops.map Op.glyphs := by
  refine ⟨?_, ?_, ?_, ?_⟩
  · intro script bytecode
    exact isReclaim_iff_ops
  · intro script bytecode first others parsed other
    exact isReclaim_of_code_ne parsed other
  · intro op formed
    exact glyphs_eq_one_iff_code formed
  · intro ops some_op
    exact Script.split_line some_op

example : (Script.line [.push .short [], .plain 0x51]).toList.splitOn ' ' = [[], ['1']] := by
  decide

end SwapWatch.Spend
