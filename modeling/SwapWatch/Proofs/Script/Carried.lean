import SwapWatch.Proofs.Script.Items
import SwapWatch.Proofs.Script.Template

/-!
# Carried data

What an output without value carries are the data pushed behind its first code, in whatever forms
and among whatever plain codes. Direct pushes write the data in the fewest bytes, and no other
operations do it in as few.
-/

set_option autoImplicit false

namespace SwapWatch.Script

theorem parse_plain_cons_eq_ok_iff {code : UInt8} (high : 0x4f ≤ code) {rest : Bytes}
    {ops : List Op} :
    parse (code :: rest) = .ok ops ↔
      ∃ others, parse rest = .ok others ∧ ops = .plain code :: others := by
  have alone : parse [code] = .ok [.plain code] :=
    parse_eq_ok_iff.mpr ⟨List.forall_mem_singleton.mpr high, rfl⟩
  exact parse_append_eq_ok_iff alone

theorem parse_tail {script : Bytes} {code : UInt8} {ops : List Op}
    (parsed : parse script = .ok (.plain code :: ops)) : parse script.tail = .ok ops := by
  obtain ⟨formed, rfl⟩ := parse_eq_ok_iff.mp parsed
  exact parse_eq_ok_iff.mpr ⟨(List.forall_mem_cons.mp formed).2, rfl⟩

theorem carriedData?_eq_some_iff {script : Bytes} {pushes : List Bytes} :
    carriedData? script = some pushes ↔
      ∃ ops, parse script = .ok (.plain 0x6a :: ops) ∧ ops.filterMap Op.data? = pushes := by
  constructor
  · intro carried
    unfold carriedData? at carried
    split at carried
    · cases carried
    · next code rest =>
      split at carried
      · next marked =>
        subst marked
        cases pushed : pushedData (0x6a :: rest) with
        | error failure =>
          rw [pushed] at carried
          cases carried
        | ok found =>
          rw [pushed] at carried
          cases carried
          obtain ⟨all, parsed, data⟩ := pushedData_eq_ok_iff.mp pushed
          obtain ⟨ops, -, rfl⟩ := (parse_plain_cons_eq_ok_iff (by decide)).mp parsed
          exact ⟨ops, parsed, data⟩
      · cases carried
  · intro pushed
    obtain ⟨ops, parsed, rfl⟩ := pushed
    obtain ⟨formed, rfl⟩ := parse_eq_ok_iff.mp parsed
    exact carriedData?_encode (List.forall_mem_cons.mp formed).2

theorem filterMap_data?_push (form : PushForm) (data : Bytes) (ops : List Op) :
    (Op.push form data :: ops).filterMap Op.data? = data :: ops.filterMap Op.data? :=
  List.filterMap_cons_some rfl

theorem filterMap_data?_plain (code : UInt8) (ops : List Op) :
    (Op.plain code :: ops).filterMap Op.data? = ops.filterMap Op.data? :=
  List.filterMap_cons_none rfl

theorem filterMap_data?_of_map {ops : List Op} {pushes : List Bytes}
    (shapes : ops.map Op.data? = pushes.map some) : ops.filterMap Op.data? = pushes := by
  have same := congrArg (List.filterMap id) shapes
  rw [List.filterMap_map, List.filterMap_map] at same
  exact same.trans List.filterMap_some

/-- The operations that push data, without the plain codes among them. -/
def withoutCodes (ops : List Op) : List Op :=
  ops.filter (·.data?.isSome)

theorem map_data?_withoutCodes (ops : List Op) :
    (withoutCodes ops).map Op.data? = (ops.filterMap Op.data?).map some := by
  induction ops with
  | nil => rfl
  | cons op ops ih =>
    cases op with
    | plain code =>
      rw [filterMap_data?_plain]
      exact ih
    | push form data =>
      rw [filterMap_data?_push, List.map_cons, ← ih]
      rfl

theorem parse_withoutCodes {script : Bytes} {code : UInt8} {ops : List Op}
    (parsed : parse script = .ok (.plain code :: ops)) :
    parse (encode (.plain code :: withoutCodes ops)) = .ok (.plain code :: withoutCodes ops) := by
  obtain ⟨first, others⟩ := List.forall_mem_cons.mp (parse_eq_ok_iff.mp parsed).1
  refine parse_eq_ok_iff.mpr ⟨List.forall_mem_cons.mpr ⟨first, ?_⟩, rfl⟩
  intro op member
  exact others op (List.mem_filter.mp member).1

/-- The number of bytes in which direct pushes write the data. -/
def directSize : List Bytes → Nat
  | [] => 0
  | data :: pushes => 1 + data.length + directSize pushes

theorem PushForm.eq_direct_of_width {form : PushForm} (bare : form.width = 0) : form = direct := by
  cases form with
  | direct => rfl
  | short => cases bare
  | medium => cases bare
  | long => cases bare

theorem directSize_le_length_encode (ops : List Op) :
    directSize (ops.filterMap Op.data?) ≤ (encode ops).length := by
  induction ops with
  | nil => exact Nat.le_refl 0
  | cons op ops ih =>
    rw [encode_cons, List.length_append, Op.length_encode]
    cases op with
    | plain code =>
      rw [filterMap_data?_plain]
      exact Nat.le_add_left_of_le ih
    | push form data =>
      rw [filterMap_data?_push, directSize, Op.size]
      omega

/-- Operations that take no more bytes than direct pushes of their data are these pushes. -/
theorem eq_direct_of_length_encode_le {ops : List Op}
    (small : (encode ops).length ≤ directSize (ops.filterMap Op.data?)) :
    ops = (ops.filterMap Op.data?).map (.push .direct) := by
  induction ops with
  | nil => rfl
  | cons op ops ih =>
    have others := directSize_le_length_encode ops
    rw [encode_cons, List.length_append, Op.length_encode] at small
    cases op with
    | plain code =>
      rw [filterMap_data?_plain, Op.size] at small
      omega
    | push form data =>
      rw [filterMap_data?_push, directSize, Op.size] at small
      have bare : form = .direct := PushForm.eq_direct_of_width (by omega)
      rw [filterMap_data?_push, List.map_cons, ← ih (by omega), bare]

end SwapWatch.Script
