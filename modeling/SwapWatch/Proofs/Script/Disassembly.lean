import SwapWatch.Script.Tokens

/-!
# Disassembled lines are read back

No operation is shown with a space, so a line cut at its spaces gives back the texts of the
operations. The number one is the text of one operation only.
-/

set_option autoImplicit false

namespace SwapWatch

namespace Hex

private theorem digit_ne_space {value : Nat} (small : value < 16) : digit value ≠ ' ' := by
  have all : ∀ value : Fin 16, digit value ≠ ' ' := by decide
  exact all ⟨value, small⟩

theorem space_not_mem_digits (bytes : Bytes) : ' ' ∉ digits bytes := by
  induction bytes with
  | nil => exact List.not_mem_nil
  | cons byte bytes ih =>
    have small := byte.toNat_lt
    simp only [digits, List.mem_cons, not_or]
    exact ⟨(digit_ne_space (by omega)).symm, (digit_ne_space (by omega)).symm, ih⟩

theorem length_digits (bytes : Bytes) : (digits bytes).length = 2 * bytes.length := by
  induction bytes with
  | nil => rfl
  | cons byte bytes ih =>
    simp only [digits, List.length_cons, ih]
    omega

end Hex

namespace Script

/-- A name that holds no space and cannot be taken for a number. -/
def IsWord (name : String) : Prop :=
  ' ' ∉ name.toList ∧ name.toList.head? = some 'O'

instance (name : String) : Decidable (IsWord name) :=
  inferInstanceAs (Decidable (_ ∧ _))

private theorem space_not_mem_toDigits (value : Nat) : ' ' ∉ Nat.toDigits 10 value := by
  intro member
  have digit := Nat.isDigit_of_mem_toDigits (by decide) (by decide) member
  cases digit

theorem IsWord.append_number {name : String} (word : IsWord name) (value : Nat) :
    IsWord (name ++ toString (value : Int)) := by
  obtain ⟨clean, start⟩ := word
  have number : (toString (value : Int)).toList = Nat.toDigits 10 value := by
    change value.repr.toList = _
    exact Nat.toList_repr
  unfold IsWord
  rw [String.toList_append, number]
  refine ⟨?_, ?_⟩
  · rw [List.mem_append, not_or]
    exact ⟨clean, space_not_mem_toDigits value⟩
  · rw [List.head?_append, start]
    rfl

private theorem namedCodes_isWord : ∀ named ∈ namedCodes, IsWord named.2 := by
  decide +kernel

theorem opName_isWord (code : Nat) : IsWord (opName code) := by
  unfold opName
  repeat' split
  · decide
  · exact IsWord.append_number (by decide) code
  · decide
  · decide
  · decide
  · decide
  · next number =>
    rw [show (code : Int) - 0x50 = ((code - 0x50 : Nat) : Int) by omega]
    exact IsWord.append_number (by decide) (code - 0x50)
  · cases found : namedCodes.lookup (code : Int) with
    | none => exact IsWord.append_number (by decide) code
    | some name =>
      obtain ⟨before, after, entries, -⟩ := List.lookup_eq_some_iff.mp found
      have member : ((code : Int), name) ∈ namedCodes := by
        rw [entries]
        exact List.mem_append_right before (.head after)
      exact namedCodes_isWord _ member

namespace Op

private theorem plain_glyphs (code : UInt8) :
    ' ' ∉ (plain code).glyphs ∧ ((plain code).glyphs = ['1'] ↔ code = 0x51) := by
  simp only [glyphs]
  split
  · next minus =>
    subst minus
    decide
  · split
    · next number =>
      rw [Nat.toString_eq_repr, Nat.toList_repr]
      have lower : 0x51 ≤ code.toNat := UInt8.le_iff_toNat_le.mp number.1
      have upper : code.toNat ≤ 0x60 := UInt8.le_iff_toNat_le.mp number.2
      have first : ∀ value : Fin 16, Nat.toDigits 10 (value + 1) = ['1'] ↔ value = 0 := by decide
      have shown := first ⟨code.toNat - 0x51, by omega⟩
      refine ⟨space_not_mem_toDigits _, ?_⟩
      rw [show code.toNat - 0x50 = code.toNat - 0x51 + 1 by omega, shown, Fin.ext_iff,
        ← UInt8.toNat_inj]
      change code.toNat - 0x51 = 0 ↔ code.toNat = 0x51
      omega
    · next noNumber =>
      obtain ⟨clean, start⟩ := opName_isWord code.toNat
      refine ⟨clean, ?_, ?_⟩
      · intro one
        rw [one] at start
        cases start
      · rintro rfl
        exact absurd (by decide) noNumber

private theorem push_glyphs (form : PushForm) (data : Bytes) :
    (push form data).glyphs = ['0'] ∨ (push form data).glyphs = Hex.digits data := by
  unfold glyphs
  split
  · exact .inl rfl
  · next same =>
    cases same
    exact .inr rfl
  · next same => cases same

theorem space_not_mem_glyphs (op : Op) : ' ' ∉ op.glyphs := by
  cases op with
  | plain code => exact (plain_glyphs code).1
  | push form data =>
    obtain zero | digits := push_glyphs form data
    · rw [zero]
      decide
    · rw [digits]
      exact Hex.space_not_mem_digits data

/-- Only the code of one is shown as the number one. -/
theorem glyphs_eq_one_iff (op : Op) : op.glyphs = ['1'] ↔ op = .plain 0x51 := by
  cases op with
  | plain code =>
    rw [(plain_glyphs code).2, plain.injEq]
  | push form data =>
    constructor
    · intro one
      obtain zero | digits := push_glyphs form data
      · rw [zero] at one
        cases one
      · have length := Hex.length_digits data
        rw [← digits, one, List.length_singleton] at length
        omega
    · intro same
      cases same

end Op

/-- The line of at least one operation is cut into the texts of the operations. -/
theorem split_line {ops : List Op} (some_op : ops ≠ []) :
    (line ops).toList.splitOn ' ' = ops.map Op.glyphs := by
  rw [line, String.toList_ofList]
  refine List.splitOn_intercalate ' ' ?_ (by simpa using some_op)
  intro piece member
  obtain ⟨op, -, rfl⟩ := List.mem_map.mp member
  exact op.space_not_mem_glyphs

end Script

end SwapWatch
