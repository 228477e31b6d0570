import SwapWatch.Proofs.Block.Layout
import SwapWatch.Scan

/-!
# Blocks in parts

A block is read from a header, a count and byte strings that are each read as a transaction on their
own, and such parts put together are read as a block again. The events of a block are those of the
transactions that its parts are read as.
-/

set_option autoImplicit false

namespace SwapWatch

open Wire

namespace BlockEvents

/-- The events of a block are these, sorted by kind and otherwise in their order. -/
structure Collects (found : BlockEvents) (events : List Event) : Prop where
  deposits : found.deposits.map Event.deposit = events.filter (·.kind = "deposit")
  receipts : found.receipts.map Event.receipt = events.filter (·.kind = "receipt")
  refunds : found.refunds.map Event.refund = events.filter (·.kind = "refund")
  perm : found.events.Perm events

theorem map_filterMap_eq_filter {ρ : Type} {wrap : ρ → Event} {pick : Event → Option ρ}
    {kind : String} (picks : ∀ event, (pick event).map wrap = Option.guard (·.kind = kind) event)
    (events : List Event) :
    (events.filterMap pick).map wrap = events.filter (·.kind = kind) := by
  rw [List.map_filterMap, funext picks, List.filterMap_eq_filter]

theorem perm_filter_kinds (events : List Event) :
    (events.filter (·.kind = "deposit") ++ (events.filter (·.kind = "receipt") ++
      events.filter (·.kind = "refund"))).Perm events := by
  induction events with
  | nil => exact .nil
  | cons event events ih =>
    cases event with
    | deposit record =>
      simpa [Event.kind] using ih
    | receipt record =>
      have moved := List.perm_middle.trans (ih.cons (Event.receipt record))
      simpa [Event.kind] using moved
    | refund record =>
      rw [← List.append_assoc] at ih
      have moved := List.perm_middle.trans (ih.cons (Event.refund record))
      simpa [Event.kind] using moved

theorem collects_ofBlock (detectors : List Detector) (block : Block) :
    (ofBlock detectors block).Collects (block.transactions.flatMap (classify detectors)) := by
  let events := block.transactions.flatMap (classify detectors)
  have deposits : (ofBlock detectors block).deposits.map Event.deposit =
      events.filter (·.kind = "deposit") :=
    map_filterMap_eq_filter (fun event => by cases event <;> rfl) events
  have receipts : (ofBlock detectors block).receipts.map Event.receipt =
      events.filter (·.kind = "receipt") :=
    map_filterMap_eq_filter (fun event => by cases event <;> rfl) events
  have refunds : (ofBlock detectors block).refunds.map Event.refund =
      events.filter (·.kind = "refund") :=
    map_filterMap_eq_filter (fun event => by cases event <;> rfl) events
  refine ⟨deposits, receipts, refunds, ?_⟩
  rw [BlockEvents.events, deposits, receipts, refunds, List.append_assoc]
  exact perm_filter_kinds events

end BlockEvents

def eventsIn (detectors : List Detector) (part : Bytes) : List Event :=
  match Transaction.ofBytes part with
  | .ok tx => classify detectors tx
  | .error _ => []

theorem flatMap_eventsIn {detectors : List Detector} {parts : List Bytes}
    {transactions : List Transaction}
    (read : List.Forall₂ (fun part tx => Transaction.ofBytes part = .ok tx) parts transactions) :
    parts.flatMap (eventsIn detectors) = transactions.flatMap (classify detectors) := by
  induction read with
  | nil => rfl
  | cons first _ ih => rw [List.flatMap_cons, List.flatMap_cons, ih, eventsIn, first]

namespace Block

/-- The bytes are a header, a count and byte strings, as many as the count says, that are each read
on their own as a transaction of the block. -/
structure Divides (raw count : Bytes) (parts : List Bytes) (block : Block) : Prop where
  bytes_eq : raw = raw.take 80 ++ count ++ parts.flatten
  header_length : (raw.take 80).length = 80
  count_read : CompactSize.read.runAt count 0 = .ok (parts.length, count.length)
  transactions_read : List.Forall₂ (fun part tx => Transaction.ofBytes part = .ok tx) parts
    block.transactions

variable {raw : Bytes} {height : Option Int} {block : Block}

theorem exists_divides (read : ofBytes raw height = .ok block) :
    ∃ count parts, Divides raw count parts block ∧
      block = ⟨Header.hashOf (raw.take 80), height, block.transactions⟩ := by
  obtain ⟨header, form, parts, eighty, room, sameBytes, spelled, made⟩ :=
    spells_read_iff.mp (ofBytes_eq_ok_iff.mp read)
  have counted : CompactSize.read.Spells (form.write block.transactions.length) parts.length := by
    rw [spelled.length_eq]
    exact CompactSize.spells_read_iff.mpr ⟨form, room, rfl⟩
  have front : raw.take 80 = header := by
    rw [sameBytes]
    exact List.take_left' eighty
  rw [← front] at eighty sameBytes made
  refine ⟨form.write block.transactions.length, parts, ⟨?_, eighty, ?_, ?_⟩, made⟩
  · rwa [List.append_assoc]
  · simpa using counted.runAt [] []
  · exact spelled.imp fun part tx => Transaction.ofBytes_eq_ok_iff.mpr

theorem ofBytes_flatten {header : Bytes} {parts : List Bytes} {transactions : List Transaction}
    (eighty : header.length = 80) (fits : parts.length < 0x10000000000000000)
    (read : List.Forall₂ (fun part tx => Transaction.ofBytes part = .ok tx) parts transactions) :
    ∃ count, CompactSize.encode parts.length = .ok count ∧
      ofBytes (header ++ count ++ parts.flatten) height =
        .ok ⟨Header.hashOf header, height, transactions⟩ := by
  have written := CompactSize.encode_eq_guarded parts.length
  rw [CompactSize.guarded_count_of_fits fits] at written
  refine ⟨_, written, ofBytes_eq_ok_iff.mpr (spells_read_iff.mpr ?_)⟩
  rw [read.length_eq] at fits ⊢
  refine ⟨header, .narrowest transactions.length, parts, eighty,
    CompactSize.Form.lt_limit_narrowest fits, List.append_assoc .., ?_, rfl⟩
  exact read.imp fun part tx => Transaction.ofBytes_eq_ok_iff.mp

/-- Reading a block reads its parts: the bytes of a block are a header, a count and the bytes of its
transactions, and all such bytes are a block. The header is written again as it was, names the
block, and the events of the block are those of the parts. -/
theorem ofBytes_reads_parts :
    (∀ raw height block, ofBytes raw height = .ok block → ∃ count parts,
      Divides raw count parts block ∧
      (∃ header, Header.ofBytes (raw.take 80) = .ok header ∧
        header.encode = .ok (raw.take 80) ∧ header.hash = .ok block.hash) ∧
      block.hash = Hex.encode (Hash.doubleSha256 (raw.take 80)).reverse ∧ block.height = height ∧
      ∀ detectors, (BlockEvents.ofBlock detectors block).Collects
        (parts.flatMap (eventsIn detectors))) ∧
    ∀ (header : Bytes) (parts : List Bytes) (transactions : List Transaction) (height : Option Int),
      header.length = 80 → parts.length < 0x10000000000000000 →
      List.Forall₂ (fun part tx => Transaction.ofBytes part = .ok tx) parts transactions →
      ∃ count, CompactSize.encode parts.length = .ok count ∧
        ofBytes (header ++ count ++ parts.flatten) height =
          .ok ⟨Header.hashOf header, height, transactions⟩ := by
  constructor
  · intro raw height block read
    obtain ⟨count, parts, divides, made⟩ := exists_divides read
    have hash : block.hash = Header.hashOf (raw.take 80) := congrArg Block.hash made
    refine ⟨count, parts, divides, ?_, hash, congrArg Block.height made, ?_⟩
    · rw [hash]
      exact Header.exists_ofBytes divides.header_length
    · intro detectors
      rw [flatMap_eventsIn divides.transactions_read]
      exact BlockEvents.collects_ofBlock detectors block
  · intro header parts transactions height eighty fits read
    exact ofBytes_flatten eighty fits read

/-- A block of two transactions whose count has three bytes, and the same parts with a count of one
byte. -/
theorem ofBytes_reads_parts_wide_count :
    let header : Bytes := List.replicate 80 0
    let parts : List Bytes := [[1, 0, 0, 0, 0, 0, 5, 0, 0, 0], [2, 0, 0, 0, 0, 0, 6, 0, 0, 0]]
    let raw : Bytes := header ++ [0xfd, 2, 0] ++ parts.flatten
    ∃ block, ofBytes raw (some 7) = .ok block ∧ block.transactions.map (·.version) = [1, 2] ∧
      (∃ found, Header.ofBytes (raw.take 80) = .ok found ∧ found.encode = .ok (raw.take 80)) ∧
      ofBytes (header ++ [2] ++ parts.flatten) none =
        .ok ⟨Header.hashOf header, none, block.transactions⟩ := by
  intro header parts raw
  let transactions : List Transaction :=
    [⟨⟨1, [], [], 5⟩, Transaction.idOf [1, 0, 0, 0, 0, 0, 5, 0, 0, 0]⟩,
      ⟨⟨2, [], [], 6⟩, Transaction.idOf [2, 0, 0, 0, 0, 0, 6, 0, 0, 0]⟩]
  have spelled : List.Forall₂ Transaction.read.Spells parts transactions :=
    .cons (Transaction.spells_encode (by simp [TxBody.IdsSized]) rfl)
      (.cons (Transaction.spells_encode (by simp [TxBody.IdsSized]) rfl) .nil)
  have eighty : header.length = 80 := List.length_replicate
  have spells : (Block.read (some 7)).Spells raw ⟨Header.hashOf header, some 7, transactions⟩ :=
    spells_read_iff.mpr ⟨header, .two, parts, eighty, by decide,
      List.append_assoc header (CompactSize.Form.two.write 2) parts.flatten, spelled, rfl⟩
  have whole := ofBytes_eq_ok_iff.mpr spells
  obtain ⟨-, -, -, ⟨found, foundRead, written, -⟩, -⟩ := ofBytes_reads_parts.1 _ _ _ whole
  obtain ⟨count, encoded, again⟩ :=
    ofBytes_reads_parts.2 header parts transactions none eighty (by decide)
      (spelled.imp fun part tx => Transaction.ofBytes_eq_ok_iff.mpr)
  rw [CompactSize.encode_eq_guarded, CompactSize.guarded_count_of_fits (by decide)] at encoded
  cases encoded
  exact ⟨_, whole, rfl, ⟨found, foundRead, written⟩, again⟩

end Block

end SwapWatch
