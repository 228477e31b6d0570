import SwapWatch.Proofs.Script.Push
import SwapWatch.Proofs.Script.Template

/-!
# Shortest pushes

Of all single operations that push the same data, none is shorter than the one that is written, and
pushes behind one another are read back in order. The codes of small numbers push data that do not
stand in the script, so these data are not among those read. Numbers are written in their shortest
bytes, and no push of a number starts the push of another one.
-/

set_option autoImplicit false

namespace SwapWatch.Script

theorem PushForm.width_narrowest_le {form : PushForm} {size : Nat} (room : form.Admits size) :
    (narrowest size).width ≤ form.width := by
  unfold narrowest
  split
  · exact Nat.zero_le _
  · next more =>
    cases form with
    | direct => exact absurd room more
    | short =>
      have fits : size ≤ 0xff := Nat.le_of_lt_succ room
      exact Nat.le_of_eq (congrArg width (if_pos fits))
    | medium =>
      have fits : size ≤ 0xffff := Nat.le_of_lt_succ room
      split
      · exact Nat.le_succ 1
      · exact Nat.le_refl _
    | long => split <;> (try split) <;> decide

def isNumberByte : Bytes → Bool
  | [byte] => (1 ≤ byte && byte ≤ 16) || byte = 0x81
  | _ => false

namespace Op

theorem pushing_of_isNumberByte {data : Bytes} (small : isNumberByte data = true) :
    ∃ code, pushing data = plain code := by
  unfold isNumberByte at small
  split at small
  · next byte =>
    simp only [Bool.or_eq_true, Bool.and_eq_true, decide_eq_true_eq] at small
    by_cases number : 1 ≤ byte ∧ byte ≤ 16
    · exact ⟨0x50 + byte, by rw [pushing, if_pos number]⟩
    · have minus := small.resolve_left number
      exact ⟨0x4f, by rw [pushing, if_neg number, if_pos minus]⟩
  · cases small

theorem pushing_of_not_isNumberByte {data : Bytes} (wide : isNumberByte data = false) :
    pushing data = push (.narrowest data.length) data := by
  obtain ⟨byte, rfl, small, -⟩ | ⟨rfl, -⟩ | pushed := pushing_cases data
  · simp [isNumberByte, small] at wide
  · cases wide
  · exact pushed

theorem isNumberByte_of_plain {code : UInt8} {data : Bytes}
    (pushed : (plain code).pushed? = some data) : isNumberByte data = true := by
  simp only [pushed?] at pushed
  split at pushed
  · cases pushed
    rfl
  · split at pushed
    · next number =>
      cases pushed
      have lower : 81 ≤ code.toNat := UInt8.le_iff_toNat_le.mp number.1
      have upper : code.toNat ≤ 96 := UInt8.le_iff_toNat_le.mp number.2
      have difference : (code - 0x50).toNat = code.toNat - 80 := by
        rw [UInt8.toNat_sub_of_le]
        · rfl
        · exact UInt8.le_iff_toNat_le.mpr (Nat.le_of_succ_le lower)
      have bounds : 1 ≤ code - 0x50 ∧ code - 0x50 ≤ 16 := by
        rw [UInt8.le_iff_toNat_le, UInt8.le_iff_toNat_le, difference]
        exact ⟨Nat.le_sub_of_add_le lower, Nat.sub_le_of_le_add upper⟩
      simp [isNumberByte, bounds]
    · cases pushed

/-- No operation that a script can write pushes the data in fewer bytes. -/
theorem size_pushing_le {op : Op} {data : Bytes} (formed : op.WellFormed)
    (pushed : op.pushed? = some data) : (pushing data).size ≤ op.size := by
  cases small : isNumberByte data with
  | true =>
    obtain ⟨code, alone⟩ := pushing_of_isNumberByte small
    rw [alone]
    cases op with
    | plain other => exact Nat.le_refl 1
    | push form other => exact Nat.le_add_right_of_le (Nat.le_add_right 1 _)
  | false =>
    rw [pushing_of_not_isNumberByte small]
    cases op with
    | plain code =>
      rw [isNumberByte_of_plain pushed] at small
      cases small
    | push form other =>
      cases pushed
      have width := PushForm.width_narrowest_le formed
      simp only [size]
      omega

theorem data?_pushing (data : Bytes) :
    (pushing data).data? = if isNumberByte data then none else some data := by
  cases small : isNumberByte data with
  | true =>
    obtain ⟨code, alone⟩ := pushing_of_isNumberByte small
    rw [alone]
    rfl
  | false =>
    rw [pushing_of_not_isNumberByte small]
    rfl

end Op

theorem encode_map_pushing (pushes : List Bytes) :
    encode (pushes.map Op.pushing) = pushes.flatMap pushData := by
  rw [encode, List.flatMap_map]
  rfl

theorem parse_pushes {pushes : List Bytes} (fit : ∀ data ∈ pushes, data.length < 4294967296) :
    parse (pushes.flatMap pushData) = .ok (pushes.map Op.pushing) := by
  refine parse_eq_ok_iff.mpr ⟨?_, encode_map_pushing pushes⟩
  intro op member
  obtain ⟨data, dataMember, rfl⟩ := List.mem_map.mp member
  exact Op.pushing_wellFormed (fit data dataMember)

theorem parse_pushData {data : Bytes} (fits : data.length < 4294967296) :
    parse (pushData data) = .ok [Op.pushing data] := by
  have parsed := parse_pushes (List.forall_mem_singleton.mpr fits)
  rwa [List.flatMap_singleton] at parsed

theorem filterMap_pushing (pushes : List Bytes) :
    (pushes.map Op.pushing).filterMap Op.data? = pushes.filter fun data => !isNumberByte data := by
  induction pushes with
  | nil => rfl
  | cons data pushes ih =>
    have first := Op.data?_pushing data
    rw [List.map_cons, List.filter_cons]
    cases small : isNumberByte data with
    | true =>
      rw [small, if_pos rfl] at first
      rw [List.filterMap_cons_none first, ih]
      rfl
    | false =>
      rw [small, if_neg Bool.false_ne_true] at first
      rw [List.filterMap_cons_some first, ih]
      rfl

/-- The push of data is one operation that pushes the data, and no script with one operation that
does so is shorter. Scripts of pushes give the data back in order, without those for which a code
stands. -/
theorem pushes_shortest_and_read_back :
    (∀ data : Bytes, data.length < 4294967296 →
      ∃ op, parse (pushData data) = .ok [op] ∧ op.pushed? = some data ∧
        ∀ script other, parse script = .ok [other] → other.pushed? = some data →
          (pushData data).length ≤ script.length) ∧
    ∀ pushes : List Bytes, (∀ data ∈ pushes, data.length < 4294967296) →
      pushedData (pushes.flatMap pushData) = .ok (pushes.filter fun data => !isNumberByte data) := by
  constructor
  · intro data fits
    refine ⟨Op.pushing data, parse_pushData fits, Op.pushed?_pushing data, ?_⟩
    intro script other parsed pushed
    obtain ⟨formed, rfl⟩ := parse_eq_ok_iff.mp parsed
    rw [encode_cons, encode_nil, List.append_nil, pushData, Op.length_encode, Op.length_encode]
    exact Op.size_pushing_le (List.forall_mem_singleton.mp formed) pushed
  · intro pushes fit
    exact pushedData_eq_ok_iff.mpr ⟨_, parse_pushes fit, filterMap_pushing pushes⟩

/-- Among the pushes are the two smallest data with a code, an empty one and one behind a marker. -/
theorem pushes_shortest_and_read_back_mixed :
    let wide : Bytes := List.replicate 76 7
    let pushes : List Bytes := [[], [1], wide, [0x81], [0]]
    (∀ data ∈ pushes, data.length < 4294967296) ∧
      pushedData (pushes.flatMap pushData) = .ok [[], wide, [0]] ∧
      ∃ op, parse (pushData wide) = .ok [op] ∧ op.pushed? = some wide ∧
        ∀ script other, parse script = .ok [other] → other.pushed? = some wide →
          (pushData wide).length ≤ script.length := by
  intro wide pushes
  have fit : ∀ data ∈ pushes, data.length < 4294967296 := by
    simp only [pushes, wide, List.forall_mem_cons, List.length_replicate]
    simp
  obtain ⟨shortest, readBack⟩ := pushes_shortest_and_read_back
  exact ⟨fit, readBack pushes fit, shortest wide (fit wide (by simp [pushes]))⟩

/-! ## Numbers -/

/-- A number is written in its shortest bytes, and these are the only ones of their length. Its push
is one operation that pushes them, and no such push starts the push of another number. -/
theorem numbers_shortest_and_apart :
    (∀ value : Int, Number.decode (Number.encode value) = value) ∧
    (∀ (value : Int) (bytes : Bytes), Number.decode bytes = value →
      (Number.encode value).length ≤ bytes.length ∧
        (bytes.length = (Number.encode value).length → bytes = Number.encode value)) ∧
    (∀ value : Int, (Number.encode value).length < 4294967296 →
      ∃ op, parse (pushNumber value) = .ok [op] ∧ op.pushed? = some (Number.encode value)) ∧
    ∀ value value' : Int, (Number.encode value).length < 4294967296 →
      (Number.encode value').length < 4294967296 →
      (pushNumber value <+: pushNumber value' ↔ value = value') := by
  refine ⟨Number.decode_encode, ?_, ?_, ?_⟩
  · intro value bytes written
    subst written
    exact ⟨Number.length_encode_decode_le bytes, Number.eq_encode_decode⟩
  · intro value fits
    exact ⟨_, parse_pushData fits, Op.pushed?_pushing _⟩
  · intro value value' fits fits'
    constructor
    · intro starts
      obtain ⟨rest, same⟩ := starts
      rw [pushNumber, pushNumber, pushData, pushData,
        ← List.append_nil (Op.pushing (Number.encode value')).encode] at same
      have ops := (Op.encode_append_inj (Op.pushing_wellFormed fits)
        (Op.pushing_wellFormed fits') same).1
      exact Number.encode_injective (Op.pushing_injective ops)
    · intro same
      exact same ▸ List.prefix_rfl

/-- The first of the two numbers needs a byte for its sign alone. -/
theorem numbers_shortest_and_apart_minus_255 :
    Number.decode [0xff, 0x80] = -255 ∧ (Number.encode (-255)).length ≤ 2 ∧
      (∃ op, parse (pushNumber (-255)) = .ok [op] ∧ op.pushed? = some (Number.encode (-255))) ∧
      ¬ pushNumber (-255) <+: pushNumber 1000 := by
  obtain ⟨-, shortest, single, apart⟩ := numbers_shortest_and_apart
  have written : Number.decode [0xff, 0x80] = -255 := by decide
  have written' : Number.decode [0xe8, 0x03] = 1000 := by decide
  have short := (shortest _ _ written).1
  have short' := (shortest _ _ written').1
  have fits : (Number.encode (-255)).length < 4294967296 := Nat.lt_of_le_of_lt short (by decide)
  have fits' : (Number.encode 1000).length < 4294967296 := Nat.lt_of_le_of_lt short' (by decide)
  refine ⟨written, short, single _ fits, ?_⟩
  rw [apart _ _ fits fits']
  decide

end SwapWatch.Script
