import SwapWatch.Proofs.Follow.ExactlyOnce
import SwapWatch.Proofs.Follow.Run

/-!
# Delivery of events

A pass moves the last scanned height before it hands events over. What a refusal of the sink leaves
over is not handed over again, so a run delivers every event exactly when nothing is refused.
-/

set_option autoImplicit false

namespace SwapWatch

variable {σ ε δ : Type}

def Note.isReading : Note ε δ → Bool
  | offer .. => false
  | _ => true

namespace Episode

def Refused (pass : PassCall ε δ) : Prop :=
  ∃ refusal, pass.result = .error (.sink refusal)

/-- The scan for new blocks in a pass. It failed when the pass failed for a fault of the source. -/
def scan (policy : Policy) (pass : PassCall ε δ) : ScanCall ε δ where
  before := pass.before
  journal := pass.journal.filter Note.isReading
  result :=
    match pass.result with
    | .error (.source fault) => .error fault
    | _ => .ok (policy.scanBlocks (pass.journal.blocks.map (·.2)))
  last := pass.last

end Episode

namespace Journal

theorem blocks_filter_isReading (notes : Journal ε δ) :
    blocks (notes.filter Note.isReading) = blocks notes := by
  rw [blocks, List.filterMap_filter]
  congr
  funext note
  cases note <;> rfl

private theorem filter_offers (taken : List Sighting) :
    (taken.map (.offer · (.ok ())) : Journal ε δ).filter Note.isReading = [] := by
  simp [List.filter_map, Function.comp_def, Note.isReading]

private theorem accepted_offers (taken : List Sighting) :
    accepted (taken.map (.offer · (.ok ())) : Journal ε δ) = taken := by
  induction taken with
  | nil => rfl
  | cons sighting taken ih => exact congrArg (sighting :: ·) ih

theorem isReading_zipWith_block (heights : List Int) (answers : List (Except ε Block)) :
    ∀ note ∈ (List.zipWith .block heights answers : Journal ε δ), note.isReading := by
  induction heights generalizing answers with
  | nil => simp
  | cons height heights ih =>
    cases answers with
    | nil => simp
    | cons answer answers => exact List.forall_mem_cons.mpr ⟨rfl, ih answers⟩

theorem accepted_of_isReading {notes : Journal ε δ} (readings : ∀ note ∈ notes, note.isReading) :
    accepted notes = [] := by
  rw [accepted, List.filterMap_eq_nil_iff]
  intro note member
  have reading := readings note member
  cases note with
  | tip answer => rfl
  | block height answer => rfl
  | offer sighting answer => cases reading

end Journal

namespace Policy

variable {policy : Policy} {last next : Option Int} {journal : Journal ε δ}
  {result : Except ε (List Sighting)}

theorem Call.isReading (call : policy.Call last journal result next) :
    ∀ note ∈ journal, note.isReading := by
  cases call with
  | unread fault => simp [Note.isReading]
  | failed tip answers fault size collected =>
    exact List.forall_mem_cons.mpr ⟨rfl, Journal.isReading_zipWith_block _ _⟩
  | scanned tip found size =>
    exact List.forall_mem_cons.mpr ⟨rfl, Journal.isReading_zipWith_block _ _⟩

/-- Offers behind the notes of a scan leave the scan as it is. -/
theorem Call.append_offers {sightings : List Sighting}
    (call : policy.Call last journal (.ok sightings) next) (offers : Journal ε δ)
    (none : offers.filter Note.isReading = []) :
    (journal ++ offers).filter Note.isReading = journal ∧
      policy.scanBlocks ((journal ++ offers).blocks.map (·.2)) = sightings ∧
      (journal ++ offers).accepted = offers.accepted := by
  have readings : (journal ++ offers).filter Note.isReading = journal := by
    rw [List.filter_append, none, List.append_nil, List.filter_eq_self.mpr call.isReading]
  refine ⟨readings, ?_, ?_⟩
  · rw [← Journal.blocks_filter_isReading, readings, call.scanBlocks_eq]
  · have taken := Journal.accepted_of_isReading call.isReading
    rw [Journal.accepted] at taken
    rw [Journal.accepted, List.filterMap_append, taken, List.nil_append, Journal.accepted]

/-- A pass delivers all its events, or those in front of the one that the sink refused. -/
def DeliversUpTo (policy : Policy) (pass : PassCall ε δ) : Prop :=
  ¬ pass.Refused ∧ (pass.scan policy).sightings = pass.journal.accepted ∨
    pass.Refused ∧ ∃ refused later,
      (pass.scan policy).sightings = pass.journal.accepted ++ refused :: later

/-- What a pass did: a scan for new blocks, and a delivery of its events up to a refusal. -/
theorem Passed.delivery {pass : PassCall ε δ}
    (passed : policy.Passed last pass.journal pass.result pass.last) :
    policy.Call last (pass.scan policy).journal (pass.scan policy).result pass.last ∧
      policy.DeliversUpTo pass := by
  obtain ⟨before, journal, result, next⟩ := pass
  dsimp only at passed ⊢
  cases passed with
  | missed call =>
    have readings := List.filter_eq_self.mpr call.isReading
    have none := Journal.accepted_of_isReading call.isReading
    simp only [DeliversUpTo, Episode.scan, Episode.sightings, readings, none]
    refine ⟨call, .inl ⟨?_, rfl⟩⟩
    rintro ⟨refusal, same⟩
    cases same
  | @refused notes _ taken sighting later refusal call =>
    obtain ⟨readings, events, accepted⟩ := call.append_offers
      (taken.map (.offer · (.ok ())) ++ [.offer sighting (.error refusal)])
      (by rw [List.filter_append, Journal.filter_offers]; rfl)
    simp only [DeliversUpTo, Episode.scan, Episode.sightings, readings, events, accepted]
    refine ⟨call, .inr ⟨⟨refusal, rfl⟩, sighting, later, ?_⟩⟩
    have before := Journal.accepted_offers (ε := ε) (δ := δ) taken
    simp only [Journal.accepted] at before
    simp [Journal.accepted, List.filterMap_append, before, Except.toOption]
  | @handed notes _ sightings call =>
    obtain ⟨readings, events, accepted⟩ := call.append_offers _ (Journal.filter_offers sightings)
    simp only [DeliversUpTo, Episode.scan, Episode.sightings, readings, events, accepted,
      Journal.accepted_offers]
    refine ⟨call, .inl ⟨?_, rfl⟩⟩
    rintro ⟨refusal, same⟩
    cases same

theorem linked_scan {passes : List (PassCall ε δ)} (linked : Linked policy.Passed last passes) :
    Linked policy.Call last (passes.map (Episode.scan policy)) := by
  induction linked with
  | nil => exact .nil
  | cons starts passed _ ih => exact .cons starts passed.delivery.1 ih

theorem DeliversUpTo.length_le {pass : PassCall ε δ} (upTo : policy.DeliversUpTo pass) :
    pass.journal.accepted.length ≤ (pass.scan policy).sightings.length := by
  obtain ⟨_, all⟩ | ⟨_, refused, later, some⟩ := upTo
  · exact Nat.le_of_eq (congrArg List.length all.symm)
  · rw [some, List.length_append]
    exact Nat.le_add_right _ _

theorem DeliversUpTo.length_lt {pass : PassCall ε δ} (upTo : policy.DeliversUpTo pass)
    (refusal : pass.Refused) :
    pass.journal.accepted.length < (pass.scan policy).sightings.length := by
  obtain ⟨none, _⟩ | ⟨_, refused, later, some⟩ := upTo
  · exact absurd refusal none
  · rw [some, List.length_append, List.length_cons]
    omega

variable {passes : List (PassCall ε δ)}

private theorem accepted_length_le (upTo : ∀ pass ∈ passes, policy.DeliversUpTo pass) :
    (passes.flatMap (·.journal.accepted)).length ≤
      (passes.flatMap fun pass => (pass.scan policy).sightings).length := by
  induction passes with
  | nil => exact Nat.le_refl _
  | cons pass passes ih =>
    obtain ⟨here, later⟩ := List.forall_mem_cons.mp upTo
    have first := here.length_le
    have rest := ih later
    rw [List.flatMap_cons, List.flatMap_cons, List.length_append, List.length_append]
    omega

private theorem not_refused_of_length_le (upTo : ∀ pass ∈ passes, policy.DeliversUpTo pass)
    (enough : (passes.flatMap fun pass => (pass.scan policy).sightings).length ≤
      (passes.flatMap (·.journal.accepted)).length) :
    ∀ pass ∈ passes, ¬ pass.Refused := by
  induction passes with
  | nil => simp
  | cons pass passes ih =>
    obtain ⟨here, later⟩ := List.forall_mem_cons.mp upTo
    have first := here.length_le
    have rest := accepted_length_le later
    rw [List.flatMap_cons, List.flatMap_cons, List.length_append, List.length_append] at enough
    refine List.forall_mem_cons.mpr ⟨fun refusal => ?_, ih later (by omega)⟩
    have less := here.length_lt refusal
    omega

def eventsOfScanned (policy : Policy) (calls : List (ScanCall ε δ)) : List Sighting :=
  (calls.flatMap Episode.scanned).flatMap fun found =>
    (BlockEvents.ofBlock policy.detectors found.2).sightings

theorem scanBlocks_perm (policy : Policy) (blocks : List Block) :
    (policy.scanBlocks blocks).Perm (blocks.flatMap fun block =>
      (BlockEvents.ofBlock policy.detectors block).sightings) := by
  have merged := BlockEvents.merge_perm (blocks.map (BlockEvents.ofBlock policy.detectors))
  rwa [List.flatMap_map] at merged

theorem sightings_perm {calls : List (ScanCall ε δ)}
    (events : ∀ call ∈ calls, call.sightings = policy.scanBlocks (call.scanned.map (·.2))) :
    (calls.flatMap Episode.sightings).Perm (policy.eventsOfScanned calls) := by
  rw [eventsOfScanned, List.flatMap_assoc]
  induction calls with
  | nil => exact .nil
  | cons call calls ih =>
    obtain ⟨here, later⟩ := List.forall_mem_cons.mp events
    have batch := scanBlocks_perm policy (call.scanned.map (·.2))
    rw [List.flatMap_map, ← here] at batch
    rw [List.flatMap_cons, List.flatMap_cons]
    exact batch.append (ih later)

/-- How far the passes of a run deliver events. -/
structure Delivers (policy : Policy) (passes : List (PassCall ε δ)) : Prop where
  scans : policy.ScansOnce (passes.map (Episode.scan policy))
  upTo : ∀ pass ∈ passes, policy.DeliversUpTo pass
  /-- The sink took every event of every block that counts as scanned, as often as it occurs,
  exactly when it refused none. -/
  complete : (∃ others, (passes.flatMap (·.journal.accepted)).Perm
      (policy.eventsOfScanned (passes.map (Episode.scan policy)) ++ others)) ↔
    ∀ pass ∈ passes, ¬ pass.Refused

theorem delivers_of_linked (linked : Linked policy.Passed policy.initial passes) :
    policy.Delivers passes := by
  have scans := scansOnce_of_linked (linked_scan linked)
  have upTo : ∀ pass ∈ passes, policy.DeliversUpTo pass := fun pass member =>
    (linked.holds pass member).delivery.2
  have owed := sightings_perm scans.events
  rw [List.flatMap_map] at owed
  refine ⟨scans, upTo, ?_, fun none => ?_⟩
  · rintro ⟨others, delivered⟩
    apply not_refused_of_length_le upTo
    rw [owed.length_eq, delivered.length_eq, List.length_append]
    exact Nat.le_add_right _ _
  · have all : ∀ pass ∈ passes, (pass.scan policy).sightings = pass.journal.accepted := by
      intro pass member
      obtain ⟨_, all⟩ | ⟨refusal, _⟩ := upTo pass member
      · exact all
      · exact absurd refusal (none pass member)
    rw [List.flatMap_def, List.map_congr_left all, ← List.flatMap_def] at owed
    exact ⟨[], by rwa [List.append_nil]⟩

end Policy

/-- Passes one after another, made singly or by a run that follows the chain, deliver every event of
every scanned block exactly when the sink refuses none; else what stands behind a refused event in
its pass is lost with it. -/
theorem delivered_iff_none_refused (policy : Policy) :
    (∀ (source : BlockSource (StateM σ) ε) (sink : Sink (StateM σ) δ) (changes : List (σ → σ))
        (world : σ),
      let passes : List (PassCall ε δ) :=
        episodes (policy.pass source.noted sink.noted) changes policy.initial world
      passes.map (fun pass => (pass.result, pass.last)) =
          outcomes (policy.pass source sink) changes policy.initial world ∧
        policy.Delivers passes) ∧
    ∀ (runner : Runner (StateM σ) ε δ) (fuel : Nat) (world : σ),
      let ran := runner.run policy fuel policy.initial world
      ∃ passes : List (PassCall ε δ),
        runner.noted.run policy fuel policy.initial (world, []) =
            (ran.1, ran.2, passes.flatMap (·.journal)) ∧
          ran.1.1 = lastAfter policy.initial passes ∧ policy.Delivers passes := by
  constructor
  · intro source sink changes world
    have invisible : ∀ last, Journaled (fun _ : Note ε δ => True) (policy.pass source sink last)
        (policy.pass source.noted sink.noted last) :=
      Policy.pass_journaled (fun _ => trivial) (fun _ _ => trivial) fun _ _ => trivial
    exact ⟨episodes_outcomes invisible _ _ _, Policy.delivers_of_linked
      (episodes_linked (policy.pass_passed source sink) changes policy.initial world)⟩
  · intro runner fuel world
    obtain ⟨passes, result, after, linked, noted⟩ :=
      runner.run_noted policy fuel policy.initial world
    obtain ⟨notes, _, keeps⟩ := runner.run_journaled (δ := δ) policy fuel policy.initial world
    have same := (keeps []).symm.trans noted
    rw [List.nil_append, Prod.mk.injEq, Prod.mk.injEq, Prod.mk.injEq] at same
    obtain ⟨⟨ended, _⟩, _, rfl⟩ := same
    exact ⟨passes, keeps [], ended, Policy.delivers_of_linked linked⟩

end SwapWatch
