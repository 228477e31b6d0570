import SwapWatch.Proofs.Script.Number
import SwapWatch.Proofs.Script.Tokens
import SwapWatch.Script.Push

/-!
# Minimal pushes are read back

The shortest push of data can be written by a script and pushes nothing but the data, so data with
the same push are equal.
-/

set_option autoImplicit false

namespace SwapWatch.Script

/-- The data that an operation pushes, be it written in the script or stand for a code. -/
def Op.pushed? : Op → Option Bytes
  | push _ data => some data
  | plain code =>
    if code = 0x4f then some [0x81]
    else if 0x51 ≤ code ∧ code ≤ 0x60 then some [code - 0x50]
    else none

theorem PushForm.narrowest_admits {size : Nat} (fits : size < 4294967296) :
    (narrowest size).Admits size := by
  unfold narrowest
  split
  · next small => exact small
  · split
    · next small => exact Nat.lt_succ_of_le small
    · split
      · next small => exact Nat.lt_succ_of_le small
      · exact fits

theorem PushForm.narrowest_of_le {size : Nat} (small : size ≤ 75) : narrowest size = direct := by
  rw [narrowest, if_pos small]

private theorem smallCode_toNat {byte : UInt8} (small : 1 ≤ byte ∧ byte ≤ 16) :
    (0x50 + byte).toNat = 80 + byte.toNat ∧ 1 ≤ byte.toNat ∧ byte.toNat ≤ 16 := by
  have lower : 1 ≤ byte.toNat := UInt8.le_iff_toNat_le.mp small.1
  have upper : byte.toNat ≤ 16 := UInt8.le_iff_toNat_le.mp small.2
  have sum : (0x50 + byte).toNat = (80 + byte.toNat) % 256 := UInt8.toNat_add 0x50 byte
  omega

namespace Op

/-- The shortest push of data is an operation of its own or written in the narrowest form. -/
theorem pushing_cases (data : Bytes) :
    (∃ byte, data = [byte] ∧ (1 ≤ byte ∧ byte ≤ 16) ∧ pushing data = plain (0x50 + byte)) ∨
      (data = [0x81] ∧ pushing data = plain 0x4f) ∨
      pushing data = push (.narrowest data.length) data := by
  unfold pushing
  split
  · next byte =>
    split
    · next small => exact .inl ⟨byte, rfl, small, rfl⟩
    · split
      · next minus =>
        subst minus
        exact .inr (.inl ⟨rfl, rfl⟩)
      · exact .inr (.inr rfl)
  · exact .inr (.inr rfl)

theorem pushing_of_two_le {data : Bytes} (more : 2 ≤ data.length) :
    pushing data = push (.narrowest data.length) data := by
  obtain ⟨byte, rfl, -, -⟩ | ⟨rfl, -⟩ | pushed := pushing_cases data
  · rw [List.length_singleton] at more
    omega
  · rw [List.length_singleton] at more
    omega
  · exact pushed

theorem pushing_wellFormed {data : Bytes} (fits : data.length < 4294967296) :
    (pushing data).WellFormed := by
  obtain ⟨byte, -, small, pushed⟩ | ⟨-, pushed⟩ | pushed := pushing_cases data
  · obtain ⟨sum, -, -⟩ := smallCode_toNat small
    rw [pushed]
    simp only [WellFormed, UInt8.le_iff_toNat_le, sum]
    exact Nat.le_add_right_of_le (by decide)
  · rw [pushed]
    decide
  · rw [pushed]
    exact PushForm.narrowest_admits fits

theorem pushed?_pushing (data : Bytes) : (pushing data).pushed? = some data := by
  obtain ⟨byte, rfl, small, pushed⟩ | ⟨rfl, pushed⟩ | pushed := pushing_cases data
  · obtain ⟨sum, lower, upper⟩ := smallCode_toNat small
    have notMinus : 0x50 + byte ≠ 0x4f := by
      intro same
      rw [same] at sum
      have : (0x4f : UInt8).toNat = 79 := rfl
      omega
    have number : 0x51 ≤ 0x50 + byte ∧ 0x50 + byte ≤ 0x60 := by
      rw [UInt8.le_iff_toNat_le, UInt8.le_iff_toNat_le, sum]
      exact ⟨Nat.add_le_add_left lower 80, Nat.add_le_add_left upper 80⟩
    have back : 0x50 + byte - 0x50 = byte := by
      rw [UInt8.add_comm, UInt8.add_sub_cancel]
    rw [pushed, pushed?, if_neg notMinus, if_pos number, back]
  · rw [pushed]
    rfl
  · rw [pushed]
    rfl

theorem pushing_injective : Function.Injective pushing := by
  intro data data' same
  have pushed := pushed?_pushing data
  rw [same, pushed?_pushing data', Option.some.injEq] at pushed
  exact pushed.symm

end Op

/-- A push of two bytes and more is read behind any operations as a push of the data. -/
theorem parse_append_pushData {before : List Op} (formed : ∀ op ∈ before, op.WellFormed)
    {data : Bytes} (more : 2 ≤ data.length) (fits : data.length < 4294967296) :
    parse (encode before ++ pushData data) =
      .ok (before ++ [.push (.narrowest data.length) data]) := by
  have last := Op.pushing_wellFormed fits
  rw [pushData, Op.pushing_of_two_le more] at *
  rw [parse_eq_ok_iff, encode_append, encode_cons, encode_nil, List.append_nil]
  refine ⟨?_, rfl⟩
  intro op member
  obtain earlier | final := List.mem_append.mp member
  · exact formed op earlier
  · obtain rfl := List.mem_singleton.mp final
    exact last

theorem length_pushData_pos (data : Bytes) : 0 < (pushData data).length := by
  rw [pushData, Op.encode_eq_cons]
  exact Nat.succ_pos _

end SwapWatch.Script
