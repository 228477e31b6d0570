import SwapWatch.Detection.Detector
import SwapWatch.Proofs.Script.Disassembly
import SwapWatch.Proofs.Script.Template

/-!
# Shapes of spending scripts

A claim pushes a secret, a selector and a redeem script; a reclaim is the code of one and the push
of a redeem script; the redeem script ends with the bytecode. Every script of these shapes is
recognised. The recognition itself looks for the bytecode at the end of the whole script and skips
codes that push nothing, so it also takes scripts in which the bytecode is not inside the last push.
-/

set_option autoImplicit false

namespace SwapWatch

open Script (Op PushForm)

namespace Script

def PushesOnly (script : Bytes) : Prop :=
  ∃ ops, parse script = .ok ops ∧ ∀ op ∈ ops, op.data?.isSome

/-- The last operation of a script is a push that has room for the bytecode. -/
def HasRoom (script bytecode : Bytes) : Prop :=
  ∃ before form data, parse script = .ok (before ++ [.push form data]) ∧
    bytecode.length ≤ data.length

/-- Bytecode at the end of a script is at the end of the last push exactly when this has room. -/
theorem suffix_data_iff (before : List Op) {script bytecode data : Bytes} {form : PushForm}
    (parsed : parse script = .ok (before ++ [.push form data])) (ends : bytecode <:+ script) :
    bytecode <:+ data ↔ HasRoom script bytecode := by
  constructor
  · intro inside
    exact ⟨before, form, data, parsed, inside.length_le⟩
  · rintro ⟨before', form', data', parsed', room⟩
    rw [parsed, Except.ok.injEq] at parsed'
    obtain ⟨rfl, same⟩ := List.append_inj' parsed' rfl
    cases same
    exact List.suffix_of_suffix_length_le ends (suffix_of_parse before parsed) room

end Script

namespace Spend

/-- The documented shape of a claim that reveals `secret`. -/
def ClaimShape (script bytecode : Bytes) (secret : String) : Prop :=
  ∃ form form' form'' bytes selector redeem,
    Script.parse script = .ok [.push form bytes, .push form' selector, .push form'' redeem] ∧
      bytes.length = 32 ∧ Hex.encode bytes = secret ∧ bytecode <:+ redeem

def ReclaimShape (script bytecode : Bytes) : Prop :=
  ∃ form redeem, Script.parse script = .ok [.plain 0x51, .push form redeem] ∧ bytecode <:+ redeem

theorem secretOfPushes?_eq_some_iff {pushes : List Bytes} {secret : String} :
    secretOfPushes? pushes = some secret ↔ ∃ bytes selector redeem,
      pushes = [bytes, selector, redeem] ∧ bytes.length = 32 ∧ Hex.encode bytes = secret := by
  unfold secretOfPushes?
  split
  · next bytes selector redeem =>
    constructor
    · intro found
      split at found
      · next size => exact ⟨bytes, selector, redeem, rfl, size, Option.some.inj found⟩
      · cases found
    · rintro ⟨bytes, selector, redeem, ⟨⟩, size, rfl⟩
      rw [if_pos size]
  · next other =>
    constructor
    · intro found
      cases found
    · rintro ⟨bytes, selector, redeem, rfl, -, -⟩
      exact absurd rfl (other bytes selector redeem)

theorem secret?_eq_some_iff {script bytecode : Bytes} {secret : String} :
    secret? script bytecode = some secret ↔ Script.endsWith script bytecode = true ∧
      ∃ ops bytes selector redeem, Script.parse script = .ok ops ∧
        ops.filterMap Op.data? = [bytes, selector, redeem] ∧ bytes.length = 32 ∧
        Hex.encode bytes = secret := by
  unfold secret?
  cases Script.endsWith script bytecode with
  | false => simp
  | true =>
    cases pushed : Script.pushedData script with
    | error failure =>
      constructor
      · intro found
        cases found
      · rintro ⟨-, ops, bytes, selector, redeem, parsed, data, -⟩
        rw [Script.pushedData_eq_ok_iff.mpr ⟨ops, parsed, data⟩] at pushed
        cases pushed
    | ok pushes =>
      obtain ⟨ops, parsed, data⟩ := Script.pushedData_eq_ok_iff.mp pushed
      simp only [if_true, secretOfPushes?_eq_some_iff, parsed, Except.ok.injEq, true_and]
      constructor
      · rintro ⟨bytes, selector, redeem, rfl, size, shown⟩
        exact ⟨ops, bytes, selector, redeem, rfl, data, size, shown⟩
      · rintro ⟨ops, bytes, selector, redeem, rfl, data', size, shown⟩
        exact ⟨bytes, selector, redeem, data.symm.trans data', size, shown⟩

theorem isReclaimLine_iff (ops : List Op) :
    isReclaimLine (Script.line ops) = true ↔ ∃ op, ops = [.plain 0x51, op] := by
  by_cases none : ops = []
  · subst none
    simp [isReclaimLine, Script.line, List.splitOn, List.splitOnP, List.splitOnPPrepend]
  · unfold isReclaimLine
    rw [Script.split_line none]
    constructor
    · intro found
      split at found
      · next selector second pieces =>
        obtain ⟨first, others, rfl, rfl, tail⟩ := List.map_eq_cons_iff.mp pieces
        obtain ⟨op, last, rfl, -, empty⟩ := List.map_eq_cons_iff.mp tail
        obtain rfl := List.map_eq_nil_iff.mp empty
        obtain rfl := (Op.glyphs_eq_one_iff first).mp (of_decide_eq_true found)
        exact ⟨op, rfl⟩
      · cases found
    · rintro ⟨op, rfl⟩
      simp [(Op.glyphs_eq_one_iff (.plain 0x51)).mpr rfl]

theorem isReclaim_iff {script bytecode : Bytes} :
    isReclaim script bytecode = true ↔ Script.endsWith script bytecode = true ∧
      ∃ op, Script.parse script = .ok [.plain 0x51, op] := by
  rw [isReclaim, Bool.and_eq_true, Script.disassemble]
  cases Script.parse script with
  | error failure => simp [Except.map]
  | ok ops =>
    simp only [Except.map, isReclaimLine_iff, Except.ok.injEq]

theorem claimShape_iff {script bytecode : Bytes} (nonempty : bytecode ≠ []) {secret : String} :
    ClaimShape script bytecode secret ↔ secret? script bytecode = some secret ∧
      Script.PushesOnly script ∧ Script.HasRoom script bytecode := by
  rw [secret?_eq_some_iff]
  constructor
  · rintro ⟨form, form', form'', bytes, selector, redeem, parsed, size, shown, inside⟩
    have atEnd : redeem <:+ script :=
      Script.suffix_of_parse [.push form bytes, .push form' selector] parsed
    refine ⟨⟨Script.endsWith_iff.mpr ⟨nonempty, inside.trans atEnd⟩, ?_⟩, ?_, ?_⟩
    · exact ⟨_, bytes, selector, redeem, parsed, rfl, size, shown⟩
    · exact ⟨_, parsed, by simp [Op.data?]⟩
    · exact ⟨[.push form bytes, .push form' selector], form'', redeem, parsed, inside.length_le⟩
  · rintro ⟨⟨ends, ops, bytes, selector, redeem, parsed, data, size, shown⟩, only, room⟩
    obtain ⟨ops', parsed', pushes⟩ := only
    obtain rfl := Except.ok.inj (parsed.symm.trans parsed')
    have shapes := Script.map_data?_of_pushes pushes
    rw [data] at shapes
    obtain ⟨first, others, rfl, found, tail⟩ := List.map_eq_cons_iff.mp shapes
    obtain ⟨second, others, rfl, found', tail⟩ := List.map_eq_cons_iff.mp tail
    obtain ⟨third, others, rfl, found'', tail⟩ := List.map_eq_cons_iff.mp tail
    obtain rfl := List.map_eq_nil_iff.mp tail
    obtain ⟨form, rfl⟩ := Script.data?_eq_some_iff.mp found
    obtain ⟨form', rfl⟩ := Script.data?_eq_some_iff.mp found'
    obtain ⟨form'', rfl⟩ := Script.data?_eq_some_iff.mp found''
    refine ⟨form, form', form'', bytes, selector, redeem, parsed, size, shown, ?_⟩
    exact (Script.suffix_data_iff [.push form bytes, .push form' selector] parsed
      (Script.endsWith_iff.mp ends).2).mpr room

theorem reclaimShape_iff {script bytecode : Bytes} (nonempty : bytecode ≠ []) :
    ReclaimShape script bytecode ↔
      isReclaim script bytecode = true ∧ Script.HasRoom script bytecode := by
  rw [isReclaim_iff]
  constructor
  · rintro ⟨form, redeem, parsed, inside⟩
    have atEnd : redeem <:+ script := Script.suffix_of_parse [.plain 0x51] parsed
    exact ⟨⟨Script.endsWith_iff.mpr ⟨nonempty, inside.trans atEnd⟩, .push form redeem, parsed⟩,
      [.plain 0x51], form, redeem, parsed, inside.length_le⟩
  · rintro ⟨⟨ends, op, parsed⟩, room⟩
    obtain ⟨before, form, redeem, parsed', -⟩ := id room
    have same : [Op.plain 0x51] ++ [op] = before ++ [.push form redeem] :=
      Except.ok.inj (parsed.symm.trans parsed')
    obtain ⟨rfl, last⟩ := List.append_inj' same rfl
    obtain rfl := List.singleton_inj.mp last
    refine ⟨form, redeem, parsed, ?_⟩
    exact (Script.suffix_data_iff [.plain 0x51] parsed (Script.endsWith_iff.mp ends).2).mpr room

/-- What is recognised has its documented shape exactly where the bytecode fits into the last
operation, a push, and where, in a claim, nothing stands between the pushes. Whatever has its
documented shape is recognised. -/
theorem shape_iff_recognised {script bytecode : Bytes} (nonempty : bytecode ≠ []) :
    (∀ secret, ClaimShape script bytecode secret ↔ secret? script bytecode = some secret ∧
      Script.PushesOnly script ∧ Script.HasRoom script bytecode) ∧
    (ReclaimShape script bytecode ↔
      isReclaim script bytecode = true ∧ Script.HasRoom script bytecode) :=
  ⟨fun _ => claimShape_iff nonempty, reclaimShape_iff nonempty⟩

/-- A reclaim of the documented shape is recognised, and so is the code of one before a code that
pushes nothing. -/
theorem isReclaim_with_and_without_push :
    isReclaim [0x51, 0x02, 0x63, 0xac] [0xac] = true ∧
      isReclaim [0x51, 0xac] [0xac] = true ∧ ¬ ReclaimShape [0x51, 0xac] [0xac] := by
  have pushing : Script.parse [0x51, 0x02, 0x63, 0xac] =
      .ok [.plain 0x51, .push .direct [0x63, 0xac]] :=
    Script.parse_eq_ok_iff.mpr ⟨by decide, rfl⟩
  have plain : Script.parse [0x51, 0xac] = .ok [.plain 0x51, .plain 0xac] :=
    Script.parse_eq_ok_iff.mpr ⟨by decide, rfl⟩
  have shaped : ReclaimShape [0x51, 0x02, 0x63, 0xac] [0xac] :=
    ⟨.direct, [0x63, 0xac], pushing, [0x63], rfl⟩
  refine ⟨((shape_iff_recognised (by decide)).2.mp shaped).1, ?_, ?_⟩
  · exact isReclaim_iff.mpr ⟨by decide, .plain 0xac, plain⟩
  · intro shaped
    obtain ⟨before, form, data, parsed, -⟩ := ((shape_iff_recognised (by decide)).2.mp shaped).2
    have same : [Op.plain 0x51] ++ [.plain 0xac] = before ++ [.push form data] :=
      Except.ok.inj (plain.symm.trans parsed)
    obtain ⟨-, last⟩ := List.append_inj' same rfl
    cases last

end Spend

end SwapWatch
