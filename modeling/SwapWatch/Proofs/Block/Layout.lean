import SwapWatch.Block
import SwapWatch.Proofs.Transaction.Layout

/-!
# Layouts of blocks

Any eighty bytes are a header, and they are what that header is written as. A block is spelled by a
header, a count in some form and the spellings of its transactions.
-/

set_option autoImplicit false

namespace SwapWatch

open Wire

namespace Header

variable {raw : Bytes} {header : Header}

theorem fixed_read : Header.read.Fixed size :=
  (Reader.fixed_number 4).bind fun _ => (Reader.fixed_take 32).bind fun _ =>
    (Reader.fixed_take 32).bind fun _ => (Reader.fixed_number 4).bind fun _ =>
      (Reader.fixed_number 4).bind fun _ => (Reader.fixed_number 4).bind fun _ =>
        Reader.fixed_pure

theorem encode_of_spells (spells : Header.read.Spells raw header) : header.encode = .ok raw := by
  obtain ⟨version, _, _, rfl, versioned, read⟩ :=
    (Reader.local_number 4).of_bind_eq_ok spells.whole
  obtain ⟨previous, _, _, rfl, linked, read⟩ := (Reader.local_take 32).of_bind_eq_ok read
  obtain ⟨merkleRoot, _, _, rfl, rooted, read⟩ := (Reader.local_take 32).of_bind_eq_ok read
  obtain ⟨timestamp, _, _, rfl, timed, read⟩ := (Reader.local_number 4).of_bind_eq_ok read
  obtain ⟨bits, _, _, rfl, targeted, read⟩ := (Reader.local_number 4).of_bind_eq_ok read
  obtain ⟨nonce, _, _, rfl, mined, read⟩ := (Reader.local_number 4).of_bind_eq_ok read
  cases read
  obtain ⟨versionFits, rfl⟩ := Reader.spells_number_iff.mp versioned
  obtain ⟨rfl, -⟩ := Reader.spells_take_iff.mp linked
  obtain ⟨rfl, -⟩ := Reader.spells_take_iff.mp rooted
  obtain ⟨timestampFits, rfl⟩ := Reader.spells_number_iff.mp timed
  obtain ⟨bitsFit, rfl⟩ := Reader.spells_number_iff.mp targeted
  obtain ⟨nonceFits, rfl⟩ := Reader.spells_number_iff.mp mined
  simp only [encode, unsigned_eq_guarded, pure_eq_guarded, guarded_bind]
  refine guarded_eq_ok_iff.mpr ⟨?_, by simp⟩
  simp only [List.cons_append, List.nil_append, List.forall_mem_cons, List.not_mem_nil,
    false_imp_iff, implies_true, and_true, NumberField.unsigned_fits_iff]
  exact ⟨⟨version, versionFits, rfl⟩, ⟨timestamp, timestampFits, rfl⟩, ⟨bits, bitsFit, rfl⟩,
    ⟨nonce, nonceFits, rfl⟩⟩

/-- Any eighty bytes are a header, which is written as these bytes and named by their digest. -/
theorem exists_ofBytes (eighty : raw.length = size) :
    ∃ header, ofBytes raw = .ok header ∧ header.encode = .ok raw ∧
      header.hash = .ok (hashOf raw) := by
  obtain ⟨header, spells⟩ := fixed_read raw eighty
  have encoded := encode_of_spells spells
  have read : Header.read.runAt raw 0 = .ok (header, raw.length) := by
    simpa using spells.runAt [] []
  refine ⟨header, ?_, encoded, ?_⟩
  · rw [ofBytes, if_pos eighty, read]
    rfl
  · rw [hash, encoded]
    rfl

end Header

namespace Block

variable {raw : Bytes} {height : Option Int} {block : Block}

theorem local_read (height : Option Int) : (Block.read height).Local :=
  (Reader.local_take Header.size).bind fun _ =>
    (local_readCounted Transaction.local_read).bind fun _ => Reader.local_pure

/-- A block is read from a header, a count in any form and its transactions, and from nothing
else. -/
theorem spells_read_iff :
    (Block.read height).Spells raw block ↔
      ∃ (header : Bytes) (form : CompactSize.Form) (parts : List Bytes),
        header.length = Header.size ∧ block.transactions.length < form.limit ∧
        raw = header ++ (form.write block.transactions.length ++ parts.flatten) ∧
        List.Forall₂ Transaction.read.Spells parts block.transactions ∧
        block = ⟨Header.hashOf header, height, block.transactions⟩ := by
  constructor
  · intro spells
    obtain ⟨header, _, _, rfl, headed, read⟩ :=
      (Reader.local_take Header.size).of_bind_eq_ok spells.whole
    obtain ⟨transactions, _, _, rfl, counted, read⟩ :=
      (local_readCounted Transaction.local_read).of_bind_eq_ok read
    cases read
    obtain ⟨rfl, eighty⟩ := Reader.spells_take_iff.mp headed
    obtain ⟨form, parts, room, rfl, spelled⟩ :=
      (spells_readCounted_iff Transaction.local_read).mp counted
    exact ⟨header, form, parts, eighty, room, by rw [List.append_nil], spelled, rfl⟩
  · rintro ⟨header, form, parts, eighty, room, rfl, spelled, made⟩
    have counted := (spells_readCounted_iff Transaction.local_read).mpr
      ⟨form, parts, room, rfl, spelled⟩
    have spells : (Block.read height).Spells _ block :=
      Reader.Spells.bind (Reader.spells_take_iff.mpr ⟨rfl, eighty⟩)
        (Reader.Spells.bind counted (Reader.spells_pure_iff.mpr ⟨rfl, made⟩))
    rwa [List.append_nil] at spells

theorem ofBytes_eq_ok_iff : ofBytes raw height = .ok block ↔ (Block.read height).Spells raw block :=
  (local_read height).runAll_eq_ok_iff_spells

end Block

end SwapWatch
