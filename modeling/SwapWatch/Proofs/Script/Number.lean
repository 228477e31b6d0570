import SwapWatch.Script.Push

/-!
# Script numbers are read back

The sign of a script number is the top bit of its last byte, the other bits are its magnitude. A
number is what its bytes are read as, so numbers with the same bytes are equal.
-/

set_option autoImplicit false

namespace SwapWatch.Script.Number

/-- The sign and the magnitude that bytes write. -/
def signed : Bytes → Bool × Nat
  | [] => (false, 0)
  | [top] => (0x80 ≤ top, top.toNat % 128)
  | low :: next :: high =>
    let (negative, rest) := signed (next :: high)
    (negative, low.toNat + 256 * rest)

/-- The number that bytes write. -/
def decode (bytes : Bytes) : Int :=
  let (negative, size) := signed bytes
  if negative then -size else size

theorem signed_cons (low : UInt8) {high : Bytes} (more : high ≠ []) :
    signed (low :: high) = ((signed high).1, low.toNat + 256 * (signed high).2) := by
  cases high with
  | nil => exact absurd rfl more
  | cons next high => rfl

theorem magnitude_zero : magnitude 0 = [] := by
  rw [magnitude, if_pos rfl]

theorem magnitude_pos {value : Nat} (positive : value ≠ 0) :
    magnitude value = UInt8.ofNat value :: magnitude (value / 256) := by
  rw [magnitude, if_neg positive]

theorem magnitude_ne_nil {value : Nat} (positive : value ≠ 0) : magnitude value ≠ [] := by
  rw [magnitude_pos positive]
  exact List.cons_ne_nil _ _

theorem toNat_magnitude (value : Nat) : Endian.toNat (magnitude value) = value := by
  induction value using magnitude.induct with
  | case1 => rw [magnitude_zero]; rfl
  | case2 value positive ih =>
    rw [magnitude_pos positive, Endian.toNat, ih, UInt8.toNat_ofNat']
    omega

theorem withSign_ne_nil (negative : Bool) {bytes : Bytes} (more : bytes ≠ []) :
    withSign negative bytes ≠ [] := by
  cases bytes with
  | nil => exact absurd rfl more
  | cons low high =>
    cases high with
    | nil =>
      simp only [withSign]
      split
      · simp
      · split <;> simp
    | cons next high => simp [withSign]

theorem signed_setBit {top : UInt8} (unused : ¬ 0x80 ≤ top) :
    signed [top ||| 0x80] = (true, top.toNat) := by
  have small : top.toNat < 2 ^ 7 := by
    simpa [UInt8.le_iff_toNat_le] using unused
  have joined : (top ||| 0x80).toNat = top.toNat + 128 := by
    rw [UInt8.toNat_or]
    exact Nat.or_two_pow_eq_add_of_lt small
  have signBit : 0x80 ≤ top ||| 0x80 := by
    rw [UInt8.le_iff_toNat_le, joined]
    exact Nat.le_add_left _ _
  simp only [signed, signBit, joined, decide_true, Prod.mk.injEq, true_and]
  omega

theorem signed_withSign (negative : Bool) {bytes : Bytes} (more : bytes ≠ []) :
    signed (withSign negative bytes) = (negative, Endian.toNat bytes) := by
  induction bytes with
  | nil => exact absurd rfl more
  | cons low high ih =>
    cases high with
    | nil =>
      have small := low.toNat_lt
      by_cases used : 0x80 ≤ low
      · cases negative <;> simp [withSign, used, signed, Endian.toNat]
      · have unused : low.toNat < 128 := by
          simpa [UInt8.le_iff_toNat_le] using used
        cases negative with
        | true => simp [withSign, used, signed_setBit used, Endian.toNat]
        | false => simp [withSign, used, signed, Endian.toNat, Nat.mod_eq_of_lt unused]
    | cons next high =>
      have rest : withSign negative (next :: high) ≠ [] := withSign_ne_nil negative (by simp)
      simp only [withSign, signed_cons low rest, ih (List.cons_ne_nil _ _), Endian.toNat]

theorem decode_encode (value : Int) : decode (encode value) = value := by
  by_cases zero : value = 0
  · subst zero
    simp [encode, magnitude_zero, withSign, decode, signed]
  · have more : magnitude value.natAbs ≠ [] := magnitude_ne_nil (by omega)
    simp only [decode, encode, signed_withSign _ more, toNat_magnitude, decide_eq_true_eq]
    split <;> omega

theorem encode_injective : Function.Injective encode :=
  Function.LeftInverse.injective decode_encode

/-! ## The shortest bytes -/

theorem eq_of_signed {bytes bytes' : Bytes} (lengths : bytes.length = bytes'.length)
    (same : signed bytes = signed bytes') : bytes = bytes' := by
  induction bytes generalizing bytes' with
  | nil => exact (List.length_eq_zero_iff.mp lengths.symm).symm
  | cons low high ih =>
    cases bytes' with
    | nil => cases lengths
    | cons low' high' =>
      have lengths : high.length = high'.length := Nat.succ.inj lengths
      have small := low.toNat_lt
      have small' := low'.toNat_lt
      by_cases last : high = []
      · subst last
        have last' : high' = [] := List.length_eq_zero_iff.mp lengths.symm
        subst last'
        simp only [signed, Prod.mk.injEq, decide_eq_decide, UInt8.le_iff_toNat_le] at same
        have top : low.toNat = low'.toNat := by
          have bit : (0x80 : UInt8).toNat = 128 := rfl
          omega
        rw [UInt8.toNat_inj.mp top]
      · have last' : high' ≠ [] := by
          intro empty
          rw [empty] at lengths
          exact last (List.length_eq_zero_iff.mp lengths)
        rw [signed_cons low last, signed_cons low' last', Prod.mk.injEq] at same
        have lowest : low.toNat = low'.toNat := by omega
        have rest : signed high = signed high' := Prod.ext same.1 (by omega)
        rw [UInt8.toNat_inj.mp lowest, ih lengths rest]

/-- A magnitude leaves the top bit of its bytes to the sign. -/
theorem two_mul_signed_lt (bytes : Bytes) :
    2 * (signed bytes).2 < Nat.pow 256 bytes.length := by
  induction bytes with
  | nil => exact Nat.zero_lt_one
  | cons low high ih =>
    have small := low.toNat_lt
    have power : Nat.pow 256 (low :: high).length = 256 * Nat.pow 256 high.length := Nat.pow_succ'
    cases high with
    | nil =>
      have bits : (signed [low]).2 = low.toNat % 128 := rfl
      have one : Nat.pow 256 ([] : Bytes).length = 1 := rfl
      omega
    | cons next high =>
      rw [signed_cons low (List.cons_ne_nil _ _)]
      have even : Nat.pow 256 (next :: high).length = 256 * Nat.pow 256 high.length := Nat.pow_succ'
      dsimp only
      omega

theorem length_withSign_magnitude_le (negative : Bool) {value width : Nat}
    (room : 2 * value < Nat.pow 256 width) :
    (withSign negative (magnitude value)).length ≤ width := by
  induction value using magnitude.induct generalizing width with
  | case1 =>
    rw [magnitude_zero]
    exact Nat.zero_le _
  | case2 value positive ih =>
    cases width with
    | zero =>
      have one : Nat.pow 256 0 = 1 := rfl
      omega
    | succ width =>
      have power : Nat.pow 256 (width + 1) = 256 * Nat.pow 256 width := Nat.pow_succ'
      rw [magnitude_pos positive]
      by_cases last : value / 256 = 0
      · rw [last, magnitude_zero]
        have byte : (UInt8.ofNat value).toNat = value := by
          rw [UInt8.toNat_ofNat']
          omega
        simp only [withSign]
        split
        · next used =>
          have used : 128 ≤ value := byte ▸ UInt8.le_iff_toNat_le.mp used
          have more : width ≠ 0 := by
            intro none
            have one : Nat.pow 256 width = 1 := congrArg (Nat.pow 256) none
            omega
          simpa using Nat.one_le_iff_ne_zero.mpr more
        · split <;> exact Nat.succ_le_succ (Nat.zero_le _)
      · obtain ⟨next, high, rest⟩ := List.exists_cons_of_ne_nil (magnitude_ne_nil last)
        have smaller : 2 * (value / 256) < Nat.pow 256 width := by omega
        have shorter := ih smaller
        rw [rest] at shorter ⊢
        exact Nat.succ_le_succ shorter

/-- A number needs no more bytes than leave a bit for its sign. -/
theorem length_encode_le_of_room {value : Int} {width : Nat}
    (room : 2 * value.natAbs < Nat.pow 256 width) : (encode value).length ≤ width :=
  length_withSign_magnitude_le _ room

theorem length_encode_le {value : Int} (width : Nat) (small : value.natAbs < Nat.pow 256 width) :
    (encode value).length ≤ width + 1 := by
  have power : Nat.pow 256 (width + 1) = 256 * Nat.pow 256 width := Nat.pow_succ'
  exact length_encode_le_of_room (by omega)

theorem decide_decode_lt_zero {bytes : Bytes} (nonzero : decode bytes ≠ 0) :
    decide (decode bytes < 0) = (signed bytes).1 := by
  have shown : decode bytes =
      if (signed bytes).1 then -((signed bytes).2 : Int) else ((signed bytes).2 : Int) := rfl
  rw [shown] at nonzero ⊢
  split at nonzero
  · next negative =>
    rw [negative, decide_eq_true_eq, if_pos rfl]
    omega
  · next positive =>
    rw [if_neg positive, (Bool.not_eq_true _).mp positive, decide_eq_false_iff_not]
    omega

theorem natAbs_decode (bytes : Bytes) : (decode bytes).natAbs = (signed bytes).2 := by
  simp only [decode]
  split <;> simp

/-- No bytes of a number are shorter than those that write it. -/
theorem length_encode_decode_le (bytes : Bytes) :
    (encode (decode bytes)).length ≤ bytes.length := by
  refine length_encode_le_of_room ?_
  rw [natAbs_decode]
  exact two_mul_signed_lt bytes

/-- Nor are any others as short. -/
theorem eq_encode_decode {bytes : Bytes}
    (short : bytes.length = (encode (decode bytes)).length) : bytes = encode (decode bytes) := by
  have magnitudes := natAbs_decode bytes
  by_cases zero : decode bytes = 0
  · rw [zero] at short ⊢
    have none : encode 0 = [] := by simp [encode, magnitude_zero, withSign]
    rw [none] at short ⊢
    exact List.length_eq_zero_iff.mp short
  · have more : magnitude (decode bytes).natAbs ≠ [] := magnitude_ne_nil (by omega)
    have written : signed (encode (decode bytes)) = (decide (decode bytes < 0), (decode bytes).natAbs) := by
      rw [encode, signed_withSign _ more, toNat_magnitude]
    have sign := decide_decode_lt_zero zero
    refine eq_of_signed short (written.trans ?_).symm
    exact Prod.ext sign magnitudes

end SwapWatch.Script.Number
