import SwapWatch.Wire.Reader

/-!
# When a reader succeeds

The ways in which a reader that is made of others can succeed, what reading the whole of some bytes
says about reading from their front, and what a failure at an offset reports.
-/

set_option autoImplicit false

namespace SwapWatch.Wire.Reader

variable {α β : Type} {reader : Reader α} {data rest : Bytes}

theorem bind_eq_ok_iff {next : α → Reader β} {value : β} :
    (reader >>= next) data = .ok (value, rest) ↔
      ∃ first middle, reader data = .ok (first, middle) ∧
        next first middle = .ok (value, rest) := by
  simp only [bind, StateT.bind, Except.bind]
  cases front : reader data with
  | error shortage => simp
  | ok parts =>
    obtain ⟨first, middle⟩ := parts
    constructor
    · intro found
      exact ⟨first, middle, rfl, found⟩
    · rintro ⟨first', middle', ⟨⟩, found⟩
      exact found

theorem withBytes_eq_ok_iff {value : α} {raw : Bytes} :
    reader.withBytes data = .ok ((value, raw), rest) ↔
      reader data = .ok (value, rest) ∧ raw = data.take (data.length - rest.length) := by
  simp only [withBytes, bind, Except.bind]
  cases front : reader data with
  | error shortage => simp
  | ok parts =>
    obtain ⟨first, middle⟩ := parts
    constructor
    · intro found
      cases found
      exact ⟨rfl, rfl⟩
    · rintro ⟨⟨⟩, rfl⟩
      rfl

/-- The whole of the bytes is read where a reader leaves none of them. -/
theorem runAll_eq_ok_iff {container : Container} {value : α} :
    reader.runAll container data = .ok value ↔
      ∃ rest, reader data = .ok (value, rest) ∧ data.length - rest.length = data.length := by
  simp only [runAll, runAt, List.drop_zero]
  cases front : reader data with
  | error shortage => simp [bind, Except.bind]
  | ok parts =>
    obtain ⟨first, middle⟩ := parts
    simp only [bind, Except.bind]
    constructor
    · intro accepted
      split at accepted
      · next all =>
        cases accepted
        exact ⟨middle, rfl, all⟩
      · cases accepted
    · rintro ⟨rest, ⟨⟩, all⟩
      rw [if_pos all]
      rfl

/-- What is missing is reported at the place up to which bytes were taken. -/
theorem runAt_eq_error_iff {offset : Nat} {error : DecodeError} :
    reader.runAt data offset = .error error ↔
      ∃ wanted left position, reader (data.drop offset) = .error ⟨wanted, left⟩ ∧
        position = offset + (data.length - offset - left) ∧
        error = .short wanted position (data.length - position) := by
  unfold runAt
  cases found : reader (data.drop offset) with
  | ok parts => simp
  | error shortage =>
    constructor
    · intro failed
      cases failed
      exact ⟨_, _, _, rfl, rfl, rfl⟩
    · rintro ⟨wanted, left, position, ⟨⟩, rfl, rfl⟩
      rfl

end SwapWatch.Wire.Reader
