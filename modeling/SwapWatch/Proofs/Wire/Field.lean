import SwapWatch.Proofs.Wire.Spelling
import SwapWatch.Wire.Field

/-!
# Numbers that fit their fields

A writer stops at the first number that does not fit its field. Each writer of the wire format is
described by one equation: the numbers that it looks at, in order, and the bytes that it gives when
all of them fit. What a number is read from is what it is written as.
-/

set_option autoImplicit false

namespace SwapWatch.Endian

theorem toInt_eq_iff {width : Nat} {bytes : Bytes} (positive : 0 < width)
    (size : bytes.length = width) {value : Int} :
    toInt bytes = value ↔
      (-(Nat.pow 256 width / 2) ≤ value ∧ value < Nat.pow 256 width / 2) ∧
        bytes = ofNat width (value % Nat.pow 256 width).toNat := by
  obtain ⟨half, even⟩ : ∃ half, Nat.pow 256 width = 2 * half := by
    obtain ⟨less, rfl⟩ := Nat.exists_eq_add_of_lt positive
    have power : Nat.pow 256 (0 + less + 1) = 256 * Nat.pow 256 (0 + less) := Nat.pow_succ'
    exact ⟨128 * Nat.pow 256 (0 + less), by omega⟩
  have small := toNat_lt bytes
  rw [size] at small
  rw [toInt, size]
  constructor
  · rintro rfl
    have low := Int.le_bmod (x := toNat bytes) (m := Nat.pow 256 width) (by omega)
    have high := Int.bmod_lt (x := toNat bytes) (m := Nat.pow 256 width) (by omega)
    refine ⟨⟨low, by omega⟩, ?_⟩
    rw [Int.bmod_emod, Int.emod_eq_of_lt (by omega) (by omega), Int.toNat_natCast, ← size,
      ofNat_toNat]
  · rintro ⟨⟨low, high⟩, written⟩
    have lower := Int.emod_nonneg value (b := Nat.pow 256 width) (by omega)
    have upper := Int.emod_lt_of_pos value (b := Nat.pow 256 width) (by omega)
    rw [written, toNat_ofNat, Nat.mod_eq_of_lt (by omega), Int.toNat_of_nonneg lower,
      Int.emod_bmod, Int.bmod_eq_of_le low (by omega)]

end SwapWatch.Endian

namespace SwapWatch.Wire

/-- A number with the field in which it is written, in bytes. -/
inductive NumberField where
  | unsigned (width : Nat) (value : Int)
  | signed (width : Nat) (value : Int)

/-- Why the number does not fit the field. -/
def NumberField.refusal? : NumberField → Option RangeError
  | unsigned width value =>
    if value < 0 then some .negative
    else if value < Nat.pow 256 width then none
    else some .tooLarge
  | signed width value =>
    if -(Nat.pow 256 width / 2) ≤ value ∧ value < Nat.pow 256 width / 2 then none
    else some .tooLarge

/-- The result, or why the first number that does not fit its field is refused. -/
def guarded {α : Type} (fields : List NumberField) (result : α) : Except RangeError α :=
  match fields.findSome? NumberField.refusal? with
  | none => .ok result
  | some error => .error error

section Guarded

variable {α β : Type} {fields : List NumberField} {result : α} {error : RangeError}

theorem guarded_eq_ok_iff {result' : α} :
    guarded fields result = .ok result' ↔
      (∀ field ∈ fields, field.refusal? = none) ∧ result' = result := by
  rw [← List.findSome?_eq_none_iff]
  unfold guarded
  cases fields.findSome? NumberField.refusal? with
  | none => simp [eq_comm]
  | some error => simp

theorem guarded_eq_error_iff :
    guarded fields result = .error error ↔
      fields.findSome? NumberField.refusal? = some error := by
  unfold guarded
  cases fields.findSome? NumberField.refusal? with
  | none => simp
  | some error => simp

theorem pure_eq_guarded : (pure result : Except RangeError α) = guarded [] result :=
  rfl

theorem guarded_bind (later : α → List NumberField) (next : α → β) :
    (guarded fields result >>= fun value => guarded (later value) (next value)) =
      guarded (fields ++ later result) (next result) := by
  unfold guarded
  rw [List.findSome?_append]
  cases fields.findSome? NumberField.refusal? with
  | none => rfl
  | some error => rfl

theorem guarded_map (f : α → β) : (guarded fields result).map f = guarded fields (f result) := by
  unfold guarded
  cases fields.findSome? NumberField.refusal? with
  | none => rfl
  | some error => rfl

theorem mapM_guarded (fields : α → List NumberField) (write : α → β) (items : List α) :
    items.mapM (fun item => guarded (fields item) (write item)) =
      guarded (items.flatMap fields) (items.map write) := by
  induction items with
  | nil => rfl
  | cons item items ih =>
    rw [List.mapM_cons, ih]
    simp only [pure_eq_guarded, guarded_bind, List.append_nil, List.flatMap_cons, List.map_cons]

end Guarded

theorem unsigned_eq_guarded (width : Nat) (value : Int) :
    unsigned width value = guarded [.unsigned width value] (Endian.ofNat width value.toNat) := by
  simp only [unsigned, guarded, List.findSome?_cons, List.findSome?_nil, NumberField.refusal?]
  split
  · rfl
  · split
    · rfl
    · rfl

theorem signed_eq_guarded (width : Nat) (value : Int) :
    signed width value =
      guarded [.signed width value]
        (Endian.ofNat width (value % Nat.pow 256 width).toNat) := by
  simp only [signed, guarded, List.findSome?_cons, List.findSome?_nil, NumberField.refusal?]
  split
  · rfl
  · rfl

theorem NumberField.unsigned_fits_iff_range {width : Nat} {value : Int} :
    (NumberField.unsigned width value).refusal? = none ↔
      0 ≤ value ∧ value < Nat.pow 256 width := by
  unfold refusal?
  grind

theorem NumberField.unsigned_fits_iff {width : Nat} {value : Int} :
    (NumberField.unsigned width value).refusal? = none ↔
      ∃ number : Nat, number < Nat.pow 256 width ∧ value = number := by
  rw [unsigned_fits_iff_range]
  constructor
  · rintro ⟨low, high⟩
    exact ⟨value.toNat, by omega, by omega⟩
  · rintro ⟨number, high, rfl⟩
    exact ⟨by omega, by omega⟩

theorem NumberField.signed_fits_iff {width : Nat} {value : Int} :
    (NumberField.signed width value).refusal? = none ↔
      -(Nat.pow 256 width / 2) ≤ value ∧ value < Nat.pow 256 width / 2 := by
  unfold refusal?
  grind

namespace Reader

variable {width : Nat} {bytes : Bytes}

theorem local_number (width : Nat) : (number width).Local :=
  (local_take width).bind fun _ => local_pure

theorem number_eq_error_iff {shortage : Shortage} :
    number width bytes = .error shortage ↔
      bytes.length < width ∧ shortage = ⟨width, bytes.length⟩ := by
  rw [← take_eq_error_iff]
  simp only [number, bind, StateT.bind, Except.bind]
  cases take width bytes with
  | error shortage' => simp
  | ok parts =>
    constructor
    · intro failed
      cases failed
    · intro failed
      cases failed

theorem fixed_number (width : Nat) : (number width).Fixed width :=
  (fixed_take width).bind fun _ => fixed_pure

theorem local_integer (width : Nat) : (integer width).Local :=
  (local_take width).bind fun _ => local_pure

theorem spells_number_iff {value : Nat} :
    (number width).Spells bytes value ↔
      value < Nat.pow 256 width ∧ bytes = Endian.ofNat width value := by
  unfold number
  rw [(local_take width).spells_bind_iff fun _ => local_pure]
  constructor
  · rintro ⟨raw, front, back, rfl, taken, made⟩
    obtain ⟨rfl, rfl⟩ := spells_take_iff.mp taken
    obtain ⟨rfl, rfl⟩ := spells_pure_iff.mp made
    rw [List.append_nil, Endian.ofNat_toNat]
    exact ⟨Endian.toNat_lt raw, rfl⟩
  · rintro ⟨fits, rfl⟩
    refine ⟨_, _, [], (List.append_nil _).symm, spells_take_iff.mpr ⟨rfl, ?_⟩,
      spells_pure_iff.mpr ⟨rfl, ?_⟩⟩
    · exact Endian.length_ofNat width value
    · rw [Endian.toNat_ofNat, Nat.mod_eq_of_lt fits]

theorem spells_integer_iff (positive : 0 < width) {value : Int} :
    (integer width).Spells bytes value ↔
      (NumberField.signed width value).refusal? = none ∧
        bytes = Endian.ofNat width (value % Nat.pow 256 width).toNat := by
  unfold integer
  rw [(local_take width).spells_bind_iff fun _ => local_pure, NumberField.signed_fits_iff]
  constructor
  · rintro ⟨raw, front, back, rfl, taken, made⟩
    obtain ⟨rfl, size⟩ := spells_take_iff.mp taken
    obtain ⟨rfl, read⟩ := spells_pure_iff.mp made
    rw [List.append_nil]
    exact (Endian.toInt_eq_iff positive size).mp read.symm
  · rintro ⟨fits, written⟩
    have size : bytes.length = width := by rw [written, Endian.length_ofNat]
    have read := (Endian.toInt_eq_iff positive size).mpr ⟨fits, written⟩
    exact ⟨bytes, bytes, [], (List.append_nil _).symm, spells_take_iff.mpr ⟨rfl, size⟩,
      spells_pure_iff.mpr ⟨rfl, read.symm⟩⟩

end Reader

end SwapWatch.Wire
