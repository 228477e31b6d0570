import SwapWatch.Proofs.Transaction.Layout

/-!
# Transactions read back

A body is written exactly when all its numbers are in range, and else the first one that is not is
reported. What was written is read back wherever it stands in a longer byte string.
-/

set_option autoImplicit false

namespace SwapWatch

open Wire

namespace TxBody

variable {body : TxBody}

/-- The numbers of a transaction are in the ranges of the format. -/
structure InRange (body : TxBody) : Prop where
  version : -0x80000000 ≤ body.version ∧ body.version < 0x80000000
  inputCount : body.inputs.length < 0x10000000000000000
  indices : ∀ input ∈ body.inputs,
    0 ≤ input.outpoint.index ∧ input.outpoint.index < 0x100000000
  inputScripts : ∀ input ∈ body.inputs, input.script.length < 0x10000000000000000
  sequences : ∀ input ∈ body.inputs, 0 ≤ input.sequence ∧ input.sequence < 0x100000000
  outputCount : body.outputs.length < 0x10000000000000000
  values : ∀ output ∈ body.outputs, 0 ≤ output.value ∧ output.value < 0x10000000000000000
  outputScripts : ∀ output ∈ body.outputs, output.script.length < 0x10000000000000000
  lockTime : 0 ≤ body.lockTime ∧ body.lockTime < 0x100000000

theorem inRange_iff_fits :
    body.InRange ↔ ∀ field ∈ body.numberFields, field.refusal? = none := by
  simp only [fits_iff, TxInput.numberFields, TxOutput.numberFields, List.forall_mem_cons,
    CompactSize.refusal?_count_eq_none_iff]
  simp only [NumberField.unsigned_fits_iff_range, NumberField.signed_fits_iff]
  constructor
  · intro range
    exact ⟨range.version, range.inputCount,
      fun input member => ⟨range.indices input member, range.inputScripts input member,
        range.sequences input member, by simp⟩,
      range.outputCount,
      fun output member => ⟨range.values output member, range.outputScripts output member, by simp⟩,
      range.lockTime⟩
  · rintro ⟨version, inputCount, inputs, outputCount, outputs, lockTime⟩
    exact {
      version, inputCount, outputCount, lockTime
      indices := fun input member => (inputs input member).1
      inputScripts := fun input member => (inputs input member).2.1
      sequences := fun input member => (inputs input member).2.2.1
      values := fun output member => (outputs output member).1
      outputScripts := fun output member => (outputs output member).2.1 }

theorem refusal?_ne_negativeCount (field : NumberField) :
    field.refusal? ≠ some .negativeCount := by
  cases field <;> grind [NumberField.refusal?]

/-- A body is written exactly when its numbers are in range; else the first one that is not, in the
order of writing, is reported. What is written is read back anywhere. -/
theorem encode_readAt (body : TxBody) :
    ((∃ raw, body.encode = .ok raw) ↔ body.InRange) ∧
    (∀ error, body.encode = .error error ↔
      body.numberFields.findSome? NumberField.refusal? = some error) ∧
    body.encode ≠ .error .negativeCount ∧
    ∀ raw, body.encode = .ok raw → body.IdsSized → ∀ front back : Bytes,
      Transaction.readAt (front ++ raw ++ back) front.length =
        .ok (⟨body, Hex.encode (Hash.doubleSha256 raw).reverse⟩, front.length + raw.length) := by
  refine ⟨?_, ?_, ?_, ?_⟩
  · rw [inRange_iff_fits, encode_eq_guarded]
    constructor
    · rintro ⟨raw, written⟩
      exact (guarded_eq_ok_iff.mp written).1
    · intro fits
      exact ⟨_, guarded_eq_ok_iff.mpr ⟨fits, rfl⟩⟩
  · intro error
    rw [encode_eq_guarded, guarded_eq_error_iff]
  · intro refused
    rw [encode_eq_guarded, guarded_eq_error_iff] at refused
    obtain ⟨field, -, refusal⟩ := List.exists_of_findSome?_eq_some refused
    exact refusal?_ne_negativeCount field refusal
  · intro raw written ids front back
    exact (Transaction.spells_encode ids written).runAt front back

theorem encode_readAt_wide_length :
    let input : TxInput := ⟨⟨List.replicate 32 7, 1⟩, List.replicate 253 0x51, 0⟩
    let body : TxBody := ⟨-1, [input], [⟨1000000, [0x51]⟩], 0⟩
    body.InRange ∧ body.IdsSized ∧ ∃ raw, body.encode = .ok raw ∧ ∀ front back : Bytes,
      Transaction.readAt (front ++ raw ++ back) front.length =
        .ok (⟨body, Hex.encode (Hash.doubleSha256 raw).reverse⟩, front.length + raw.length) := by
  intro input body
  have range : body.InRange := by
    constructor <;> simp [body, input, -List.reduceReplicate]
  have ids : body.IdsSized := by
    simp [IdsSized, body, input, -List.reduceReplicate]
  obtain ⟨written, -, -, readBack⟩ := encode_readAt body
  obtain ⟨raw, encoded⟩ := written.mpr range
  exact ⟨range, ids, raw, encoded, readBack raw encoded ids⟩

end TxBody

end SwapWatch
