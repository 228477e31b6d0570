import SwapWatch.Proofs.Detection.Agreement
import SwapWatch.Scan

/-!
# Which events a transaction has

The first detector that finds a step of a swap wins. Since detectors never find different steps of
one kind, the events of a transaction depend on the set of the detectors only: not on their order
and not on repetitions, and further detectors only add events. A transaction never has both a
receipt and a refund.
-/

set_option autoImplicit false

namespace SwapWatch

namespace Agrees

variable {α β : Type} {search : α → Option β} (agrees : Agrees search)

include agrees

theorem findSome?_eq_some_iff {items : List α} {found : β} :
    items.findSome? search = some found ↔ ∃ item ∈ items, search item = some found := by
  constructor
  · intro first
    exact List.exists_of_findSome?_eq_some first
  · rintro ⟨item, member, answer⟩
    have answered : (items.findSome? search).isSome :=
      List.findSome?_isSome_iff.mpr ⟨item, member, by rw [answer]; rfl⟩
    obtain ⟨first, firstFound⟩ := Option.isSome_iff_exists.mp answered
    obtain ⟨item', -, answer'⟩ := List.exists_of_findSome?_eq_some firstFound
    rw [firstFound, agrees answer' answer]

theorem findSome?_sublist {γ : Type} (wrap : β → γ) {items items' : List α}
    (subset : items ⊆ items') :
    ((items.findSome? search).map wrap).toList.Sublist
      ((items'.findSome? search).map wrap).toList := by
  cases first : items.findSome? search with
  | none => exact List.nil_sublist _
  | some found =>
    obtain ⟨item, member, answer⟩ := List.exists_of_findSome?_eq_some first
    have same : items'.findSome? search = some found :=
      agrees.findSome?_eq_some_iff.mpr ⟨item, subset member, answer⟩
    simp only [same, List.Sublist.refl]

end Agrees

variable {detectors detectors' : List Detector} {tx : Transaction}

theorem mem_classify {event : Event} :
    event ∈ classify detectors tx ↔ ∃ detector ∈ detectors, detector.Detects tx event := by
  unfold classify
  cases event with
  | deposit record =>
    simp only [List.mem_append, Option.mem_toList, Option.map_eq_some_iff, Event.deposit.injEq,
      reduceCtorEq, and_false, exists_false, or_false, exists_eq_right]
    exact (Detector.deposit?_agrees tx).findSome?_eq_some_iff
  | receipt record =>
    simp only [List.mem_append, Option.mem_toList, Option.map_eq_some_iff, Event.receipt.injEq,
      reduceCtorEq, and_false, exists_false, or_false, false_or, exists_eq_right]
    exact (Detector.receipt?_agrees tx).findSome?_eq_some_iff
  | refund record =>
    simp only [List.mem_append, Option.mem_toList, Option.map_eq_some_iff, Event.refund.injEq,
      reduceCtorEq, and_false, exists_false, false_or, exists_eq_right]
    exact (Detector.refund?_agrees tx).findSome?_eq_some_iff

theorem kinds_toList_sublist {ρ : Type} (wrap : ρ → Event) {kind : String}
    (kinds : ∀ record, (wrap record).kind = kind) (found : Option ρ) :
    ((found.map wrap).toList.map Event.kind).Sublist [kind] := by
  cases found with
  | none => exact List.nil_sublist _
  | some record =>
    simp only [Option.map_some, Option.toList_some, List.map_singleton, kinds record,
      List.Sublist.refl]

/-- Each kind occurs at most once: a deposit first, then a receipt, then a refund. -/
theorem kinds_classify (detectors : List Detector) (tx : Transaction) :
    ((classify detectors tx).map Event.kind).Sublist ["deposit", "receipt", "refund"] := by
  rw [classify, List.map_append, List.map_append]
  have deposits := kinds_toList_sublist Event.deposit (fun _ => rfl)
    (detectors.findSome? (·.deposit? tx))
  have receipts := kinds_toList_sublist Event.receipt (fun _ => rfl)
    (detectors.findSome? (·.receipt? tx))
  have refunds := kinds_toList_sublist Event.refund (fun _ => rfl)
    (detectors.findSome? (·.refund? tx))
  exact (deposits.append receipts).append refunds

theorem classify_sublist (subset : detectors ⊆ detectors') :
    (classify detectors tx).Sublist (classify detectors' tx) := by
  have deposits := (Detector.deposit?_agrees tx).findSome?_sublist Event.deposit subset
  have receipts := (Detector.receipt?_agrees tx).findSome?_sublist Event.receipt subset
  have refunds := (Detector.refund?_agrees tx).findSome?_sublist Event.refund subset
  exact (deposits.append receipts).append refunds

theorem classify_congr (same : ∀ detector, detector ∈ detectors ↔ detector ∈ detectors') :
    classify detectors tx = classify detectors' tx := by
  have forth : detectors ⊆ detectors' := fun detector member => (same detector).mp member
  have back : detectors' ⊆ detectors := fun detector member => (same detector).mpr member
  exact (classify_sublist forth).eq_of_length_le (classify_sublist back).length_le

/-- The events of a transaction are those that some detector finds, one for each kind, and depend on
nothing but the set of the detectors. -/
theorem classify_depends_on_set (detectors : List Detector) (tx : Transaction) :
    (∀ event, event ∈ classify detectors tx ↔ ∃ detector ∈ detectors, detector.Detects tx event) ∧
    (∀ (detector detector' : Detector) (event event' : Event), detector.Detects tx event →
      detector'.Detects tx event' → event.kind = event'.kind → event = event') ∧
    ((classify detectors tx).map Event.kind).Sublist ["deposit", "receipt", "refund"] ∧
    (∀ detectors', (∀ detector, detector ∈ detectors ↔ detector ∈ detectors') →
      classify detectors tx = classify detectors' tx) ∧
    ∀ detectors', detectors ⊆ detectors' →
      (classify detectors tx).Sublist (classify detectors' tx) := by
  refine ⟨fun event => mem_classify, ?_, kinds_classify detectors tx, ?_, ?_⟩
  · intro detector detector' event event' found found' same
    exact found.agree found' same
  · intro detectors' same
    exact classify_congr same
  · intro detectors' subset
    exact classify_sublist subset

/-- Two versions whose bytecodes overlap report a reclaim once, in whatever order and however often
they are listed. -/
theorem classify_overlapping_versions :
    let refusing : Oracle := fun _ => .error (.refused "no terms")
    let long : Detector := ⟨⟨"long", [0x63, 0xac]⟩, refusing, Declaration.standardTag⟩
    let short : Detector := ⟨⟨"short", [0xac]⟩, refusing, Declaration.standardTag⟩
    let input : TxInput := { outpoint := ⟨[7], 0⟩, script := [0x51, 0x02, 0x63, 0xac] }
    let tx : Transaction := { version := 2, inputs := [input], outputs := [], txid := "spend" }
    classify [long, short] tx = classify [short, long, short] tx ∧
      Event.refund ⟨TxId.display [7], "spend"⟩ ∈ classify [long, short] tx := by
  intro refusing long short input tx
  have parsed : Script.parse input.script = .ok [.plain 0x51, .push .direct [0x63, 0xac]] :=
    Script.parse_eq_ok_iff.mpr ⟨by decide, rfl⟩
  have reclaims : Spend.isReclaim input.script [0x63, 0xac] = true :=
    Spend.isReclaim_iff.mpr ⟨by decide, _, parsed⟩
  obtain ⟨found, -, -, same, -⟩ := classify_depends_on_set [long, short] tx
  constructor
  · apply same
    intro detector
    simp only [List.mem_cons, List.not_mem_nil, or_false]
    grind
  · exact (found _).mpr ⟨long, List.mem_cons_self,
      Detector.refund?_eq_some.mpr ⟨input, rfl, reclaims, rfl⟩⟩

/-- A script that reveals a secret under one bytecode is a reclaim under none, and a transaction has
no receipt beside a refund. -/
theorem receipt_excludes_refund :
    (∀ (script bytecode bytecode' : Bytes) (secret : String),
      Spend.secret? script bytecode = some secret → Spend.isReclaim script bytecode' = false) ∧
    ∀ (detectors : List Detector) (tx : Transaction) (receipt : Receipt) (refund : Refund),
      ¬ (.receipt receipt ∈ classify detectors tx ∧ .refund refund ∈ classify detectors tx) := by
  constructor
  · intro script bytecode bytecode' secret revealed
    exact Spend.isReclaim_of_secret? revealed
  · rintro detectors tx receipt refund ⟨claimed, reclaimed⟩
    obtain ⟨detector, -, found⟩ := mem_classify.mp claimed
    obtain ⟨detector', -, found'⟩ := mem_classify.mp reclaimed
    have none : detector'.refund? tx = none := Detector.refund?_of_receipt? found
    exact Option.some_ne_none refund (found'.symm.trans none)

theorem claim_no_reclaim :
    let script : Bytes := 0x20 :: List.replicate 32 7 ++ [0x00, 0x02, 0x51, 0xac]
    Spend.secret? script [0xac] = some (Hex.encode (List.replicate 32 7)) ∧
      Spend.isReclaim script [0x51, 0xac] = false := by
  intro script
  have parsed : Script.parse script = .ok [.push .direct (List.replicate 32 7),
      .push .direct [], .push .direct [0x51, 0xac]] :=
    Script.parse_eq_ok_iff.mpr ⟨by decide, rfl⟩
  have revealed : Spend.secret? script [0xac] = some (Hex.encode (List.replicate 32 7)) :=
    Spend.secret?_eq_some_iff.mpr ⟨by decide, _, _, _, _, parsed, rfl, rfl, rfl⟩
  exact ⟨revealed, receipt_excludes_refund.1 script [0xac] [0x51, 0xac] _ revealed⟩

end SwapWatch
