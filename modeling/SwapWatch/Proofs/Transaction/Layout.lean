import SwapWatch.Proofs.Wire.Counted
import SwapWatch.Transaction

/-!
# Layouts of transactions

The bytes of a transaction are settled by its fields and by the forms in which its counts stand. A
transaction is read from every layout whose forms have room for the counts, and it is written in the
narrowest one.
-/

set_option autoImplicit false

namespace SwapWatch

open Wire

/-- Items that stand in the bytes one behind the other, each with a count in some form. -/
theorem forall₂_forms_iff {α : Type} {Reads : Bytes → α → Prop} {sound : α → Prop} {count : α → Nat}
    {write : CompactSize.Form → α → Bytes}
    (each : ∀ raw item, Reads raw item ↔
      sound item ∧ ∃ form : CompactSize.Form, count item < form.limit ∧ raw = write form item)
    {parts : List Bytes} {items : List α} :
    List.Forall₂ Reads parts items ↔
      (∀ item ∈ items, sound item) ∧ ∃ laid : List (α × CompactSize.Form),
        laid.map (·.1) = items ∧ (∀ entry ∈ laid, count entry.1 < entry.2.limit) ∧
          parts = laid.map fun entry => write entry.2 entry.1 := by
  constructor
  · intro reads
    induction reads with
    | nil => exact ⟨by simp, [], rfl, by simp, rfl⟩
    | @cons part item parts items head tail ih =>
      obtain ⟨soundItem, form, room, rfl⟩ := (each _ _).mp head
      obtain ⟨soundItems, laid, rfl, rooms, rfl⟩ := ih
      refine ⟨List.forall_mem_cons.mpr ⟨soundItem, soundItems⟩, (item, form) :: laid, rfl, ?_, rfl⟩
      exact List.forall_mem_cons.mpr ⟨room, rooms⟩
  · rintro ⟨soundItems, laid, rfl, rooms, rfl⟩
    induction laid with
    | nil => exact .nil
    | cons entry laid ih =>
      obtain ⟨room, rooms⟩ := List.forall_mem_cons.mp rooms
      obtain ⟨soundItem, soundItems⟩ := List.forall_mem_cons.mp soundItems
      exact .cons ((each _ _).mpr ⟨soundItem, entry.2, room, rfl⟩) (ih soundItems rooms)

namespace TxInput

def numberFields (input : TxInput) : List NumberField :=
  [.unsigned 4 input.outpoint.index, .unsigned 8 input.script.length, .unsigned 4 input.sequence]

def bytesIn (form : CompactSize.Form) (input : TxInput) : Bytes :=
  input.outpoint.txHash ++ Endian.ofNat 4 input.outpoint.index.toNat ++
    (form.write input.script.length ++ input.script) ++ Endian.ofNat 4 input.sequence.toNat

theorem encode_eq_guarded (input : TxInput) :
    input.encode =
      guarded input.numberFields (input.bytesIn (.narrowest input.script.length)) := by
  simp only [encode, unsigned_eq_guarded, sized_eq_guarded, pure_eq_guarded, guarded_bind,
    List.cons_append, List.nil_append]
  rfl

theorem local_read : TxInput.read.Local :=
  (Reader.local_take 32).bind fun _ => (Reader.local_number 4).bind fun _ =>
    local_readSized.bind fun _ => (Reader.local_number 4).bind fun _ => Reader.local_pure

theorem spells_read_iff {raw : Bytes} {input : TxInput} :
    TxInput.read.Spells raw input ↔
      (input.outpoint.txHash.length = 32 ∧ ∀ field ∈ input.numberFields, field.refusal? = none) ∧
        ∃ form : CompactSize.Form, input.script.length < form.limit ∧ raw = input.bytesIn form := by
  simp only [numberFields, List.forall_mem_cons, NumberField.unsigned_fits_iff]
  constructor
  · intro spells
    obtain ⟨txHash, hash, _, rfl, taken, read⟩ :=
      (Reader.local_take 32).of_bind_eq_ok spells.whole
    obtain ⟨index, indexBytes, _, rfl, indexed, read⟩ :=
      (Reader.local_number 4).of_bind_eq_ok read
    obtain ⟨script, scriptBytes, _, rfl, scripted, read⟩ := local_readSized.of_bind_eq_ok read
    obtain ⟨sequence, sequenceBytes, _, rfl, sequenced, read⟩ :=
      (Reader.local_number 4).of_bind_eq_ok read
    cases read
    obtain ⟨rfl, size⟩ := Reader.spells_take_iff.mp taken
    obtain ⟨indexFits, rfl⟩ := Reader.spells_number_iff.mp indexed
    obtain ⟨form, room, rfl⟩ := spells_readSized_iff.mp scripted
    obtain ⟨sequenceFits, rfl⟩ := Reader.spells_number_iff.mp sequenced
    refine ⟨⟨size, ⟨index, indexFits, rfl⟩, ⟨script.length, ?_, rfl⟩,
      ⟨sequence, sequenceFits, rfl⟩, by simp⟩, form, room, ?_⟩
    · exact Nat.lt_of_lt_of_le room form.limit_le
    · simp [bytesIn, List.append_assoc]
  · obtain ⟨⟨txHash, index⟩, script, sequence⟩ := input
    rintro ⟨⟨size, ⟨index, indexFits, rfl⟩, -, ⟨sequence, sequenceFits, rfl⟩, -⟩, form, room, rfl⟩
    have parts : bytesIn form ⟨⟨txHash, index⟩, script, sequence⟩ =
        txHash ++ (Endian.ofNat 4 index ++ ((form.write script.length ++ script) ++
          (Endian.ofNat 4 sequence ++ []))) := by
      simp [bytesIn, List.append_assoc]
    rw [parts]
    exact Reader.Spells.bind (Reader.spells_take_iff.mpr ⟨rfl, size⟩)
      (Reader.Spells.bind (Reader.spells_number_iff.mpr ⟨indexFits, rfl⟩)
        (Reader.Spells.bind (spells_readSized_iff.mpr ⟨form, room, rfl⟩)
          (Reader.Spells.bind (Reader.spells_number_iff.mpr ⟨sequenceFits, rfl⟩)
            (Reader.spells_pure_iff.mpr ⟨rfl, rfl⟩))))

end TxInput

namespace TxOutput

def numberFields (output : TxOutput) : List NumberField :=
  [.unsigned 8 output.value, .unsigned 8 output.script.length]

def bytesIn (form : CompactSize.Form) (output : TxOutput) : Bytes :=
  Endian.ofNat 8 output.value.toNat ++ (form.write output.script.length ++ output.script)

theorem encode_eq_guarded (output : TxOutput) :
    output.encode =
      guarded output.numberFields (output.bytesIn (.narrowest output.script.length)) := by
  simp only [encode, unsigned_eq_guarded, sized_eq_guarded, pure_eq_guarded, guarded_bind,
    List.cons_append, List.nil_append]
  rfl

theorem local_read : TxOutput.read.Local :=
  (Reader.local_number 8).bind fun _ => local_readSized.bind fun _ => Reader.local_pure

theorem spells_read_iff {raw : Bytes} {output : TxOutput} :
    TxOutput.read.Spells raw output ↔
      (∀ field ∈ output.numberFields, field.refusal? = none) ∧
        ∃ form : CompactSize.Form, output.script.length < form.limit ∧
          raw = output.bytesIn form := by
  simp only [numberFields, List.forall_mem_cons, NumberField.unsigned_fits_iff]
  constructor
  · intro spells
    obtain ⟨value, valueBytes, _, rfl, valued, read⟩ :=
      (Reader.local_number 8).of_bind_eq_ok spells.whole
    obtain ⟨script, scriptBytes, _, rfl, scripted, read⟩ := local_readSized.of_bind_eq_ok read
    cases read
    obtain ⟨valueFits, rfl⟩ := Reader.spells_number_iff.mp valued
    obtain ⟨form, room, rfl⟩ := spells_readSized_iff.mp scripted
    refine ⟨⟨⟨value, valueFits, rfl⟩, ⟨script.length, ?_, rfl⟩, by simp⟩, form, room, ?_⟩
    · exact Nat.lt_of_lt_of_le room form.limit_le
    · simp [bytesIn]
  · obtain ⟨value, script⟩ := output
    rintro ⟨⟨⟨value, valueFits, rfl⟩, -⟩, form, room, rfl⟩
    have parts : bytesIn form ⟨value, script⟩ =
        Endian.ofNat 8 value ++ ((form.write script.length ++ script) ++ []) := by
      simp [bytesIn]
    rw [parts]
    exact Reader.Spells.bind (Reader.spells_number_iff.mpr ⟨valueFits, rfl⟩)
      (Reader.Spells.bind (spells_readSized_iff.mpr ⟨form, room, rfl⟩)
        (Reader.spells_pure_iff.mpr ⟨rfl, rfl⟩))

end TxOutput

namespace TxBody

def numberFields (body : TxBody) : List NumberField :=
  .signed 4 body.version ::
    .unsigned 8 body.inputs.length :: body.inputs.flatMap TxInput.numberFields ++
    .unsigned 8 body.outputs.length :: body.outputs.flatMap TxOutput.numberFields ++
    [.unsigned 4 body.lockTime]

def IdsSized (body : TxBody) : Prop :=
  ∀ input ∈ body.inputs, input.outpoint.txHash.length = 32

/-- A body with the form of every count in it. -/
structure Layout where
  version : Int
  inputCount : CompactSize.Form
  /-- Every input with the form of the length of its script; the outputs are alike. -/
  inputs : List (TxInput × CompactSize.Form)
  outputCount : CompactSize.Form
  outputs : List (TxOutput × CompactSize.Form)
  lockTime : Int

namespace Layout

def body (layout : Layout) : TxBody :=
  ⟨layout.version, layout.inputs.map (·.1), layout.outputs.map (·.1), layout.lockTime⟩

/-- The counts and lengths in the order in which they stand, each with its form. -/
def counts (layout : Layout) : List (Nat × CompactSize.Form) :=
  (layout.inputs.length, layout.inputCount) ::
    layout.inputs.map (fun entry => (entry.1.script.length, entry.2)) ++
    (layout.outputs.length, layout.outputCount) ::
    layout.outputs.map (fun entry => (entry.1.script.length, entry.2))

def bytes (layout : Layout) : Bytes :=
  Endian.ofNat 4 (layout.version % Nat.pow 256 4).toNat ++
    (layout.inputCount.write layout.inputs.length ++
      layout.inputs.flatMap fun entry => entry.1.bytesIn entry.2) ++
    (layout.outputCount.write layout.outputs.length ++
      layout.outputs.flatMap fun entry => entry.1.bytesIn entry.2) ++
    Endian.ofNat 4 layout.lockTime.toNat

/-- Every form has room for its count. -/
def HasRoom (layout : Layout) : Prop :=
  ∀ entry ∈ layout.counts, entry.1 < entry.2.limit

theorem forall_counts_iff {layout : Layout} {holds : Nat × CompactSize.Form → Prop} :
    (∀ entry ∈ layout.counts, holds entry) ↔
      (holds (layout.inputs.length, layout.inputCount) ∧
        ∀ entry ∈ layout.inputs, holds (entry.1.script.length, entry.2)) ∧
      holds (layout.outputs.length, layout.outputCount) ∧
        ∀ entry ∈ layout.outputs, holds (entry.1.script.length, entry.2) := by
  simp only [counts, List.cons_append, List.forall_mem_cons, List.forall_mem_append,
    List.forall_mem_map, and_assoc]

theorem hasRoom_iff {layout : Layout} :
    layout.HasRoom ↔
      (layout.inputs.length < layout.inputCount.limit ∧
        ∀ entry ∈ layout.inputs, entry.1.script.length < entry.2.limit) ∧
      layout.outputs.length < layout.outputCount.limit ∧
        ∀ entry ∈ layout.outputs, entry.1.script.length < entry.2.limit :=
  forall_counts_iff

end Layout

/-- The layout with every count in its narrowest form. -/
def narrowest (body : TxBody) : Layout where
  version := body.version
  inputCount := .narrowest body.inputs.length
  inputs := body.inputs.map fun input => (input, .narrowest input.script.length)
  outputCount := .narrowest body.outputs.length
  outputs := body.outputs.map fun output => (output, .narrowest output.script.length)
  lockTime := body.lockTime

variable {body : TxBody} {raw : Bytes}

@[simp]
theorem body_narrowest (body : TxBody) : body.narrowest.body = body := by
  simp [narrowest, Layout.body, Function.comp_def]

/-- A body is written in its narrowest layout. -/
theorem encode_eq_guarded (body : TxBody) :
    body.encode = guarded body.numberFields body.narrowest.bytes := by
  simp only [encode, signed_eq_guarded, unsigned_eq_guarded,
    counted_eq_guarded TxInput.encode_eq_guarded, counted_eq_guarded TxOutput.encode_eq_guarded,
    pure_eq_guarded, guarded_bind, List.cons_append, List.nil_append, List.append_assoc,
    List.append_nil]
  simp only [numberFields, narrowest, Layout.bytes, List.cons_append, List.append_assoc,
    List.length_map, List.flatMap_map]

theorem fits_iff :
    (∀ field ∈ body.numberFields, field.refusal? = none) ↔
      (NumberField.signed 4 body.version).refusal? = none ∧
      (NumberField.unsigned 8 body.inputs.length).refusal? = none ∧
      (∀ input ∈ body.inputs, ∀ field ∈ input.numberFields, field.refusal? = none) ∧
      (NumberField.unsigned 8 body.outputs.length).refusal? = none ∧
      (∀ output ∈ body.outputs, ∀ field ∈ output.numberFields, field.refusal? = none) ∧
      (NumberField.unsigned 4 body.lockTime).refusal? = none := by
  simp only [numberFields, List.cons_append, List.append_assoc, List.forall_mem_cons,
    List.forall_mem_append, List.forall_mem_flatMap, List.not_mem_nil, false_imp_iff, implies_true,
    and_true]

theorem local_read : TxBody.read.Local :=
  (Reader.local_integer 4).bind fun _ => (local_readCounted TxInput.local_read).bind fun _ =>
    (local_readCounted TxOutput.local_read).bind fun _ => (Reader.local_number 4).bind fun _ =>
      Reader.local_pure

/-- The numbers of the body fit their fields, and the ids in it have their size. -/
def Writable (body : TxBody) : Prop :=
  body.IdsSized ∧ ∀ field ∈ body.numberFields, field.refusal? = none

theorem Layout.spells {layout : Layout} (writable : layout.body.Writable) (room : layout.HasRoom) :
    TxBody.read.Spells layout.bytes layout.body := by
  obtain ⟨version, inputCount, inputs, outputCount, outputs, lockTime⟩ := layout
  obtain ⟨ids, fits⟩ := writable
  obtain ⟨versionFits, -, inputsFit, -, outputsFit, locks⟩ := fits_iff.mp fits
  obtain ⟨⟨inputRoom, inputRooms⟩, outputRoom, outputRooms⟩ := hasRoom_iff.mp room
  obtain ⟨lockTime, lockTimeFits, rfl⟩ := NumberField.unsigned_fits_iff.mp locks
  have inputsSpelled : List.Forall₂ TxInput.read.Spells
      (inputs.map fun entry => entry.1.bytesIn entry.2) (inputs.map (·.1)) :=
    (forall₂_forms_iff @TxInput.spells_read_iff).mpr
      ⟨fun input member => ⟨ids input member, inputsFit input member⟩, inputs, rfl, inputRooms, rfl⟩
  have outputsSpelled : List.Forall₂ TxOutput.read.Spells
      (outputs.map fun entry => entry.1.bytesIn entry.2) (outputs.map (·.1)) :=
    (forall₂_forms_iff @TxOutput.spells_read_iff).mpr ⟨outputsFit, outputs, rfl, outputRooms, rfl⟩
  have inputsRead := (spells_readCounted_iff TxInput.local_read).mpr
    ⟨inputCount, _, by simpa using inputRoom, rfl, inputsSpelled⟩
  have outputsRead := (spells_readCounted_iff TxOutput.local_read).mpr
    ⟨outputCount, _, by simpa using outputRoom, rfl, outputsSpelled⟩
  have spells : TxBody.read.Spells _ _ :=
    Reader.Spells.bind ((Reader.spells_integer_iff (by decide)).mpr ⟨versionFits, rfl⟩)
      (Reader.Spells.bind inputsRead
        (Reader.Spells.bind outputsRead
          (Reader.Spells.bind (Reader.spells_number_iff.mpr ⟨lockTimeFits, rfl⟩)
            (Reader.spells_pure_iff.mpr ⟨rfl, rfl⟩))))
  simpa [body, bytes, List.flatMap_def, List.append_assoc] using spells

theorem exists_layout (spells : TxBody.read.Spells raw body) :
    body.Writable ∧ ∃ layout : Layout, layout.body = body ∧ layout.HasRoom ∧ layout.bytes = raw := by
  obtain ⟨version, versionBytes, _, rfl, versioned, read⟩ :=
    (Reader.local_integer 4).of_bind_eq_ok spells.whole
  obtain ⟨inputs, inputBytes, _, rfl, inputsRead, read⟩ :=
    (local_readCounted TxInput.local_read).of_bind_eq_ok read
  obtain ⟨outputs, outputBytes, _, rfl, outputsRead, read⟩ :=
    (local_readCounted TxOutput.local_read).of_bind_eq_ok read
  obtain ⟨lockTime, lockTimeBytes, _, rfl, locked, read⟩ :=
    (Reader.local_number 4).of_bind_eq_ok read
  cases read
  obtain ⟨versionFits, rfl⟩ := (Reader.spells_integer_iff (by decide)).mp versioned
  obtain ⟨inputCount, _, inputRoom, rfl, spelled⟩ :=
    (spells_readCounted_iff TxInput.local_read).mp inputsRead
  obtain ⟨inputsSound, inputs, rfl, inputRooms, rfl⟩ :=
    (forall₂_forms_iff @TxInput.spells_read_iff).mp spelled
  obtain ⟨outputCount, _, outputRoom, rfl, spelled⟩ :=
    (spells_readCounted_iff TxOutput.local_read).mp outputsRead
  obtain ⟨outputsSound, outputs, rfl, outputRooms, rfl⟩ :=
    (forall₂_forms_iff @TxOutput.spells_read_iff).mp spelled
  obtain ⟨lockTimeFits, rfl⟩ := Reader.spells_number_iff.mp locked
  have inputCountFits := Nat.lt_of_lt_of_le inputRoom inputCount.limit_le
  have outputCountFits := Nat.lt_of_lt_of_le outputRoom outputCount.limit_le
  refine ⟨⟨fun input member => (inputsSound input member).1, fits_iff.mpr ⟨versionFits,
    NumberField.unsigned_fits_iff.mpr ⟨_, inputCountFits, rfl⟩,
    fun input member => (inputsSound input member).2,
    NumberField.unsigned_fits_iff.mpr ⟨_, outputCountFits, rfl⟩, outputsSound,
    NumberField.unsigned_fits_iff.mpr ⟨lockTime, lockTimeFits, rfl⟩⟩⟩, ?_⟩
  rw [List.length_map] at inputRoom outputRoom
  refine ⟨⟨version, inputCount, inputs, outputCount, outputs, lockTime⟩, rfl,
    Layout.hasRoom_iff.mpr ⟨⟨inputRoom, inputRooms⟩, outputRoom, outputRooms⟩, ?_⟩
  simp [Layout.bytes, List.flatMap_def]

/-- A body is read from its layouts and from nothing else. -/
theorem spells_read_iff :
    TxBody.read.Spells raw body ↔
      body.Writable ∧ ∃ layout : Layout, layout.body = body ∧ layout.HasRoom ∧
        layout.bytes = raw := by
  constructor
  · exact exists_layout
  · rintro ⟨writable, layout, rfl, room, rfl⟩
    exact layout.spells writable room

theorem hasRoom_narrowest (fits : ∀ field ∈ body.numberFields, field.refusal? = none) :
    body.narrowest.HasRoom := by
  have room : ∀ {count : Nat}, (NumberField.unsigned 8 count).refusal? = none →
      count < (CompactSize.Form.narrowest count).limit := fun fits =>
    CompactSize.Form.lt_limit_narrowest (CompactSize.refusal?_count_eq_none_iff.mp fits)
  obtain ⟨-, inputCount, inputs, outputCount, outputs, -⟩ := fits_iff.mp fits
  simp only [Layout.hasRoom_iff, narrowest, List.length_map, List.forall_mem_map]
  refine ⟨⟨room inputCount, fun input member => room (inputs input member _ ?_)⟩,
    room outputCount, fun output member => room (outputs output member _ ?_)⟩
  · simp [TxInput.numberFields]
  · simp [TxOutput.numberFields]

end TxBody

namespace Transaction

variable {raw : Bytes} {tx : Transaction}

theorem local_read : Transaction.read.Local :=
  TxBody.local_read.withBytes.bind fun _ => Reader.local_pure

/-- A transaction is its body under the id of all the bytes that it was read from. -/
theorem spells_read_iff :
    Transaction.read.Spells raw tx ↔
      TxBody.read.Spells raw tx.toTxBody ∧ tx = ⟨tx.toTxBody, idOf raw⟩ := by
  constructor
  · intro spells
    obtain ⟨⟨body, bytes⟩, front, back, rfl, bodySpells, read⟩ :=
      TxBody.local_read.withBytes.of_bind_eq_ok spells.whole
    cases read
    obtain ⟨bodySpells, rfl⟩ := TxBody.local_read.spells_withBytes_iff.mp bodySpells
    rw [List.append_nil]
    exact ⟨bodySpells, rfl⟩
  · rintro ⟨bodySpells, made⟩
    have withRaw := TxBody.local_read.spells_withBytes_iff.mpr ⟨bodySpells, rfl⟩
    have spells : Transaction.read.Spells (raw ++ []) tx :=
      Reader.Spells.bind withRaw (Reader.spells_pure_iff.mpr ⟨rfl, made⟩)
    rwa [List.append_nil] at spells

theorem spells_encode {body : TxBody} (ids : body.IdsSized) (written : body.encode = .ok raw) :
    Transaction.read.Spells raw ⟨body, idOf raw⟩ := by
  rw [TxBody.encode_eq_guarded] at written
  obtain ⟨fits, rfl⟩ := guarded_eq_ok_iff.mp written
  exact spells_read_iff.mpr ⟨TxBody.spells_read_iff.mpr ⟨⟨ids, fits⟩, body.narrowest,
    TxBody.body_narrowest body, TxBody.hasRoom_narrowest fits, rfl⟩, rfl⟩

theorem ofBytes_eq_ok_iff : ofBytes raw = .ok tx ↔ Transaction.read.Spells raw tx :=
  local_read.runAll_eq_ok_iff_spells

end Transaction

end SwapWatch
