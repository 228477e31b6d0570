import SwapWatch.Proofs.Transaction.Layout
import SwapWatch.Proofs.Wire.Shortest

/-!
# Canonical bytes

A transaction that was read can be written again. That never makes it longer, and it gives the same
bytes exactly when every count already stood in its narrowest form. Of the bytes of one body, those
of the narrowest layout are the only ones of their length.
-/

set_option autoImplicit false

namespace SwapWatch

open Wire

theorem TxInput.narrows (input : TxInput) {form : CompactSize.Form}
    (room : input.script.length < form.limit) :
    Narrows (input.bytesIn form) (input.bytesIn (.narrowest input.script.length))
      (CompactSize.encode input.script.length = .ok (form.write input.script.length)) := by
  unfold bytesIn
  exact (((CompactSize.narrows_count room).before _).behind _).before _

theorem TxOutput.narrows (output : TxOutput) {form : CompactSize.Form}
    (room : output.script.length < form.limit) :
    Narrows (output.bytesIn form) (output.bytesIn (.narrowest output.script.length))
      (CompactSize.encode output.script.length = .ok (form.write output.script.length)) := by
  unfold bytesIn
  exact ((CompactSize.narrows_count room).before _).behind _

namespace TxBody.Layout

structure Writes (layout : Layout) (body : TxBody) (raw : Bytes) : Prop where
  body_eq : layout.body = body
  hasRoom : layout.HasRoom
  bytes_eq : layout.bytes = raw

/-- Every count stands as it is written. -/
def Minimal (layout : Layout) : Prop :=
  ∀ entry ∈ layout.counts, CompactSize.encode entry.1 = .ok (entry.2.write entry.1)

theorem narrows {layout : Layout} (room : layout.HasRoom) :
    Narrows layout.bytes layout.body.narrowest.bytes layout.Minimal := by
  obtain ⟨⟨inputRoom, inputRooms⟩, outputRoom, outputRooms⟩ := hasRoom_iff.mp room
  have inputs := Narrows.flatMap fun entry member =>
    TxInput.narrows entry.1 (inputRooms entry member)
  have outputs := Narrows.flatMap fun entry member =>
    TxOutput.narrows entry.1 (outputRooms entry member)
  have counted := ((CompactSize.narrows_count inputRoom).append inputs).append
    ((CompactSize.narrows_count outputRoom).append outputs)
  have parts := (counted.behind (Endian.ofNat 4 (layout.version % Nat.pow 256 4).toNat)).before
    (Endian.ofNat 4 layout.lockTime.toNat)
  refine Narrows.congr ?_ forall_counts_iff.symm
  simpa only [bytes, narrowest, body, List.length_map, List.flatMap_map, List.append_assoc]
    using parts

end TxBody.Layout

namespace Transaction

/-- A transaction that was read is written again in no more bytes and read back with the same body.
The bytes are the same exactly when every count already stood in its shortest form, and exactly when
they are as many. -/
theorem rewriting_narrows (raw : Bytes) (tx : Transaction) (read : ofBytes raw = .ok tx) :
    ∃ short again, tx.toTxBody.encode = .ok short ∧ ofBytes short = .ok again ∧
      again.toTxBody = tx.toTxBody ∧ short.length ≤ raw.length ∧
      (short = raw → again.txid = tx.txid) ∧
      (∃ layout : TxBody.Layout, layout.Writes tx.toTxBody raw) ∧
      ∀ layout : TxBody.Layout, layout.Writes tx.toTxBody raw →
        (short = raw ↔ layout.Minimal) ∧ (layout.Minimal ↔ short.length = raw.length) := by
  obtain ⟨bodySpells, made⟩ := spells_read_iff.mp (ofBytes_eq_ok_iff.mp read)
  obtain ⟨writable, layout, sameBody, room, sameBytes⟩ := TxBody.spells_read_iff.mp bodySpells
  have encoded : tx.toTxBody.encode = .ok tx.narrowest.bytes := by
    rw [TxBody.encode_eq_guarded]
    exact guarded_eq_ok_iff.mpr ⟨writable.2, rfl⟩
  have narrows : ∀ layout : TxBody.Layout, layout.Writes tx.toTxBody raw →
      Narrows raw tx.narrowest.bytes layout.Minimal := by
    rintro layout ⟨sameBody, room, rfl⟩
    rw [← sameBody]
    exact TxBody.Layout.narrows room
  refine ⟨tx.narrowest.bytes, ⟨tx.toTxBody, idOf tx.narrowest.bytes⟩, encoded,
    ofBytes_eq_ok_iff.mpr (spells_encode writable.1 encoded), rfl,
    (narrows layout ⟨sameBody, room, sameBytes⟩).length_le, ?_,
    ⟨layout, sameBody, room, sameBytes⟩, ?_⟩
  · intro same
    rw [made, same]
  · intro layout writes
    exact ⟨(narrows layout writes).eq_iff, (narrows layout writes).length_eq_iff⟩

/-- Bytes in which a count of one has three bytes and a length of two has five are not canonical. -/
theorem rewriting_narrows_wide_counts :
    let txHash : Bytes := List.replicate 32 7
    let raw : Bytes := [2, 0, 0, 0] ++ [0xfd, 1, 0] ++ txHash ++ [1, 0, 0, 0] ++
      [0xfe, 2, 0, 0, 0] ++ [0x51, 0x52] ++ [0, 0, 0, 0] ++ [0] ++ [9, 0, 0, 0]
    let body : TxBody := ⟨2, [⟨⟨txHash, 1⟩, [0x51, 0x52], 0⟩], [], 9⟩
    ofBytes raw = .ok ⟨body, idOf raw⟩ ∧
      ∃ short again, body.encode = .ok short ∧ ofBytes short = .ok again ∧
        again.toTxBody = body ∧ short ≠ raw ∧ short.length < raw.length := by
  intro txHash raw body
  let layout : TxBody.Layout :=
    ⟨2, .two, [(⟨⟨txHash, 1⟩, [0x51, 0x52], 0⟩, .four)], .bare, [], 9⟩
  have room : layout.HasRoom := by
    simp [TxBody.Layout.hasRoom_iff, layout, CompactSize.Form.limit]
  have bytes : layout.bytes = raw := by
    simp [TxBody.Layout.bytes, TxInput.bytesIn, layout, raw, CompactSize.Form.write, Endian.ofNat,
      -List.reduceReplicate]
  have writes : layout.Writes body raw := ⟨rfl, room, bytes⟩
  have writable : body.Writable := by
    constructor
    · simp [TxBody.IdsSized, body, txHash]
    · refine TxBody.fits_iff.mpr ?_
      simp [body, TxInput.numberFields, NumberField.refusal?]
  have spells : TxBody.read.Spells raw body :=
    TxBody.spells_read_iff.mpr ⟨writable, layout, rfl, room, bytes⟩
  have read : ofBytes raw = .ok ⟨body, idOf raw⟩ :=
    ofBytes_eq_ok_iff.mpr (spells_read_iff.mpr ⟨spells, rfl⟩)
  obtain ⟨short, again, encoded, readAgain, sameBody, shorter, -, -, exact⟩ :=
    rewriting_narrows raw _ read
  have wide : ¬layout.Minimal := by
    intro minimal
    have first := minimal (1, .two) List.mem_cons_self
    cases first
  obtain ⟨same, size⟩ := exact layout writes
  refine ⟨read, short, again, encoded, readAgain, sameBody, fun equal => wide (same.mp equal), ?_⟩
  exact Nat.lt_of_le_of_ne shorter fun equal => wide (size.mpr equal)

end Transaction

end SwapWatch
