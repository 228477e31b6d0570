import SwapWatch.Proofs.Script.Tokens
import SwapWatch.Script.Tokens

/-!
# Templates and pushed data

What the templates of a deposit give back, what a script pushes in terms of its operations, and
where the end of a script lies.
-/

set_option autoImplicit false

namespace SwapWatch.Script

theorem lockedHash?_lockToHash {hash : Bytes} (size : hash.length = 20) :
    lockedHash? (lockToHash hash) = some hash := by
  have last : (hash ++ [0x87])[20]? = some 0x87 := by
    rw [← size, List.getElem?_concat_length]
  have front : (hash ++ [0x87]).take 20 = hash := by
    rw [← size, List.take_left]
  simp only [lockToHash, lockedHash?, List.cons_append]
  rw [if_pos ⟨trivial, trivial, by simp [size], last⟩, front]

theorem lockedHash?_eq_some_iff {script hash : Bytes} :
    lockedHash? script = some hash ↔ hash.length = 20 ∧ script = lockToHash hash := by
  constructor
  · intro found
    unfold lockedHash? at found
    split at found
    · next code size body =>
      split at found
      · next shape =>
        obtain ⟨rfl, rfl, length, last⟩ := shape
        cases found
        have last_byte : body.drop 20 = [0x87] := by
          rw [List.drop_eq_getElem_cons (by omega), (List.getElem_eq_iff _).mpr last,
            List.drop_of_length_le (by omega)]
        refine ⟨by simp [length], ?_⟩
        rw [lockToHash, List.cons_append, List.cons_append, ← last_byte, List.take_append_drop]
      · cases found
    · cases found
  · intro locks
    obtain ⟨size, rfl⟩ := locks
    exact lockedHash?_lockToHash size

/-- Data behind the code of an output without value is carried, in whatever forms it is pushed. -/
theorem carriedData?_encode {ops : List Op} (formed : ∀ op ∈ ops, op.WellFormed) :
    carriedData? (encode (.plain 0x6a :: ops)) = some (ops.filterMap Op.data?) := by
  have all : ∀ op ∈ Op.plain 0x6a :: ops, op.WellFormed :=
    List.forall_mem_cons.mpr ⟨by decide, formed⟩
  have parsed : parse (encode (.plain 0x6a :: ops)) = .ok (.plain 0x6a :: ops) :=
    parse_eq_ok_iff.mpr ⟨all, rfl⟩
  have opens : encode (.plain 0x6a :: ops) = 0x6a :: encode ops := rfl
  rw [opens, carriedData?, if_pos rfl, ← opens, pushedData, parsed]
  rfl

theorem endsWith_iff {script bytecode : Bytes} :
    endsWith script bytecode = true ↔ bytecode ≠ [] ∧ bytecode <:+ script := by
  simp [endsWith]

theorem pushedData_eq_ok_iff {script : Bytes} {pushes : List Bytes} :
    pushedData script = .ok pushes ↔
      ∃ ops, parse script = .ok ops ∧ ops.filterMap Op.data? = pushes := by
  unfold pushedData
  cases parse script with
  | error failure => simp [Except.map]
  | ok ops => simp [Except.map]

theorem data?_eq_some_iff {op : Op} {data : Bytes} :
    op.data? = some data ↔ ∃ form, op = .push form data := by
  cases op with
  | push form found => simp [Op.data?]
  | plain code => simp [Op.data?]

theorem map_data?_of_pushes {ops : List Op} (only : ∀ op ∈ ops, op.data?.isSome) :
    ops.map Op.data? = (ops.filterMap Op.data?).map some := by
  induction ops with
  | nil => rfl
  | cons op ops ih =>
    obtain ⟨first, others⟩ := List.forall_mem_cons.mp only
    obtain ⟨data, found⟩ := Option.isSome_iff_exists.mp first
    rw [List.map_cons, List.filterMap_cons_some found, List.map_cons, found, ih others]

theorem suffix_of_parse (before : List Op) {script data : Bytes} {form : PushForm}
    (parsed : parse script = .ok (before ++ [.push form data])) : data <:+ script := by
  obtain ⟨-, rfl⟩ := parse_eq_ok_iff.mp parsed
  rw [encode_append, encode_cons, encode_nil, List.append_nil]
  exact (List.suffix_append _ data).trans (List.suffix_append _ _)

end SwapWatch.Script
