import Mathlib.Algebra.Order.Floor.Div
import SwapWatch.Proofs.Follow.Range

/-!
# Catching up

While the tip stays and no block is missing, every scan for new blocks comes nearer to the highest
confirmed height by a batch, the last one by what is left of it. So the height is reached after as
many calls as the distance has batches, and what the calls gave together is what one scan of the
whole distance gives. From then on a call asks for no block and changes nothing.
-/

set_option autoImplicit false

namespace SwapWatch

variable {σ ε δ : Type}

/-! ## Settled sources -/

/-- In all these worlds the source has this tip and gives the same blocks, and asking it leads from
one of them to another. -/
structure BlockSource.Settled (source : BlockSource (StateM σ) ε) (worlds : σ → Prop)
    (tip : Int) : Prop where
  tip_eq : ∀ world, worlds world → (source.tip world).1 = .ok tip
  tip_stays : ∀ world, worlds world → worlds (source.tip world).2
  answer_eq : ∀ world world', worlds world → worlds world' →
    source.answer world = source.answer world'
  block_stays : ∀ world height, worlds world → worlds (source.blockAt height world).2

namespace BlockSource.Settled

variable {source : BlockSource (StateM σ) ε} {worlds : σ → Prop} {tip : Int} {world : σ}

theorem after (settled : source.Settled worlds tip) (inside : worlds world) (heights : List Int) :
    worlds (source.after world heights) := by
  induction heights generalizing world with
  | nil => exact inside
  | cons height heights ih => exact ih (settled.block_stays world height inside)

theorem steady (settled : source.Settled worlds tip) (inside : worlds world) :
    source.Steady world :=
  fun heights => settled.answer_eq _ _ (settled.after inside heights) inside

theorem complete (settled : source.Settled worlds tip) {world' : σ} (inside : worlds world)
    (inside' : worlds world') {first last : Int} (complete : source.Complete world first last) :
    source.Complete world' first last := by
  intro height low high
  rw [settled.answer_eq world' world inside' inside]
  exact complete height low high

end BlockSource.Settled

namespace Policy

variable {policy : Policy} {source : BlockSource (StateM σ) ε} {worlds : σ → Prop} {tip : Int}
  {world : σ}

/-! ## One call -/

def scanAbove (policy : Policy) (source : BlockSource (StateM σ) ε) (tip height : Int)
    (world : σ) : Except ε (List Sighting) :=
  (policy.scanRange source (height + 1) (policy.confirmed tip) world).1.result

section Settled

variable (settled : source.Settled worlds tip) (inside : worlds world) {last : Option Int}
  {blocks : Int → Block}
  (each : ∀ height ∈ policy.dueHeights last tip, source.answer world height = .ok (blocks height))

include settled inside each

theorem scanRange_due_front :
    ∃ later, worlds later ∧ policy.scanAbove source tip (policy.reached last tip) world =
      (policy.scanAbove source tip (policy.reached last tip + policy.due last tip) later).map
        (policy.scanBlocks ((policy.dueHeights last tip).map blocks) ++ ·) := by
  by_cases none : policy.confirmed tip ≤ policy.reached last tip
  · refine ⟨world, inside, ?_⟩
    rw [policy.dueHeights_eq_nil none, policy.due_eq_zero none, Nat.cast_zero, Int.add_zero,
      List.map_nil, scanBlocks_nil]
    cases policy.scanAbove source tip (policy.reached last tip) world with
    | error fault => rfl
    | ok found => rfl
  · let later := source.after world (policy.dueHeights last tip)
    have whole : (policy.confirmed tip - (policy.reached last tip + 1) + 1).toNat =
        (policy.confirmed tip - policy.reached last tip).toNat := by omega
    have front : policy.reached last tip + policy.due last tip + 1 =
        policy.reached last tip + 1 + policy.due last tip := by omega
    have left :
        (policy.confirmed tip - (policy.reached last tip + 1 + policy.due last tip) + 1).toNat =
          (policy.confirmed tip - policy.reached last tip).toNat - policy.due last tip := by
      omega
    have fetched := (settled.steady inside).fetch_noted (policy.dueHeights last tip)
      ([] : Journal ε Empty)
    rw [mapM_eq_ok_map each] at fetched
    refine ⟨later, settled.after inside _, ?_⟩
    rw [scanAbove, scanAbove, ← policy.scanRange_noted source _ _ world ([] : Journal ε Empty),
      scanRange, whole, policy.scanFrom_batch (by omega) rfl fetched, front,
      ← policy.scanRange_noted source _ _ later
        ([] ++ source.notes world (policy.dueHeights last tip) : Journal ε Empty), scanRange, left]
    rfl

theorem scanNew_settled :
    ∃ (log : List LogEntry) (after : σ) (journal : Journal ε δ), worlds after ∧
      journal.asked = policy.dueHeights last tip ∧
      policy.scanNew source.noted last (world, []) =
        (⟨.ok (policy.scanBlocks ((policy.dueHeights last tip).map blocks)),
          some (policy.reached last tip + policy.due last tip), log⟩, after, journal) := by
  have asked : policy.confirmedHeight (source.noted (δ := δ)) (world, []) =
      (.ok (policy.confirmed tip), (source.tip world).2, [.tip (.ok tip)]) := by
    have noted : policy.confirmedHeight (source.noted (δ := δ)) (world, []) =
        ((source.tip world).1.map policy.confirmed, (source.tip world).2,
          [.tip (source.tip world).1]) := rfl
    rw [noted, settled.tip_eq world inside]
    rfl
  have fold : last.getD (policy.baseline (policy.confirmed tip)) = policy.reached last tip := rfl
  have stays := settled.tip_stays world inside
  simp only [scanNew, bind, StateT.bind, asked, fold]
  by_cases none : policy.confirmed tip ≤ policy.reached last tip
  · refine ⟨[], (source.tip world).2, [.tip (.ok tip)], stays, ?_, ?_⟩
    · rw [policy.dueHeights_eq_nil none]
      rfl
    · rw [if_pos none, policy.dueHeights_eq_nil none, policy.due_eq_zero none, Nat.cast_zero,
        Int.add_zero, List.map_nil, scanBlocks_nil]
      rfl
  · have same : source.answer (source.tip world).2 = source.answer world :=
      settled.answer_eq _ _ stays inside
    rw [← same] at each
    have fetched := (settled.steady stays).fetch_noted (policy.dueHeights last tip)
      ([.tip (.ok tip)] : Journal ε δ)
    rw [mapM_eq_ok_map each] at fetched
    simp only [if_neg none, final_eq _ _ _ none, scanRange_due, StateT.bind]
    rw [policy.scanFrom_once (policy.due_pos none) (policy.due_le_batchSize last tip) fetched]
    exact ⟨_, source.after (source.tip world).2 (policy.dueHeights last tip),
      [.tip (.ok tip)] ++ source.notes (source.tip world).2 (policy.dueHeights last tip),
      settled.after stays _, source.asked_notes _ _, rfl⟩

end Settled

structure Advances (policy : Policy) (source : BlockSource (StateM σ) ε) (worlds : σ → Prop)
    (tip : Int) (last : Option Int) (journal : Journal ε δ) (result : Except ε (List Sighting))
    (next : Option Int) : Prop where
  asked : journal.asked = policy.dueHeights last tip
  moved : next = some (policy.reached last tip + policy.due last tip)
  front : ∃ found, result = .ok found ∧ (policy.due last tip = 0 → found = []) ∧
    ∀ world, worlds world → ∃ later, worlds later ∧
      policy.scanAbove source tip (policy.reached last tip) world =
        (policy.scanAbove source tip (policy.reached last tip + policy.due last tip) later).map
          (found ++ ·)

/-- While no block that is left to scan is missing, a call is a step of catching up. -/
theorem scanNew_advances (settled : source.Settled worlds tip) (inside : worlds world)
    {last : Option Int}
    (complete : source.Complete world (policy.reached last tip + 1) (policy.confirmed tip)) :
    ∃ step after journal, policy.scanNew (source.noted (δ := δ)) last (world, []) =
        (step, after, journal) ∧
      policy.Advances source worlds tip last journal step.result step.last ∧ worlds after ∧
      source.Complete after (policy.reached step.last tip + 1) (policy.confirmed tip) := by
  obtain ⟨blocks, served⟩ := complete.blocks
  have each : ∀ height ∈ policy.dueHeights last tip,
      source.answer world height = .ok (blocks height) :=
    fun height due => served height (mem_heightsTo.mpr (bounds_of_mem_dueHeights due))
  obtain ⟨log, after, journal, stays, asked, run⟩ := scanNew_settled (δ := δ) settled inside each
  refine ⟨_, after, journal, run, ⟨asked, rfl, _, rfl, ?_, ?_⟩, stays, ?_⟩
  · intro idle
    rw [dueHeights, idle]
    exact scanBlocks_nil policy
  · intro world' inside'
    apply scanRange_due_front settled inside'
    rwa [settled.answer_eq _ _ inside' inside]
  · intro height low high
    apply settled.complete inside stays complete height _ high
    change policy.reached last tip + policy.due last tip + 1 ≤ height at low
    omega

/-! ## Runs of calls -/

section Run

variable {last : Option Int} {known : Int} {calls : List (ScanCall ε δ)}

theorem linked_of_none {call : ScanCall ε δ}
    (linked : Linked (policy.Advances source worlds tip) none (call :: calls)) :
    Linked (policy.Advances source worlds tip) (some (policy.baseline (policy.confirmed tip)))
      ({ call with before := some (policy.baseline (policy.confirmed tip)) } :: calls) := by
  cases linked with
  | cons _ step linked => exact .cons rfl ⟨step.asked, step.moved, step.front⟩ linked

theorem lastAfter_of_advances
    (linked : Linked (policy.Advances source worlds tip) (some known) calls) :
    lastAfter (some known) calls = some (min (max known (policy.confirmed tip))
      (known + (policy.batchSize * calls.length : Nat))) := by
  induction calls generalizing known with
  | nil => simp [lastAfter]
  | cons call calls ih =>
    cases linked with
    | cons _ step linked =>
      have moved : call.last = some (known + policy.due (some known) tip) := step.moved
      rw [moved] at linked
      rw [lastAfter, moved, ih linked, List.length_cons, Nat.mul_succ]
      have due : policy.due (some known) tip =
          min policy.batchSize (policy.confirmed tip - known).toNat := rfl
      rw [due]
      congr 1
      omega

theorem scanAbove_of_advances (linked : Linked (policy.Advances source worlds tip) last calls)
    {final : Int} (ends : lastAfter last calls = some final) (caught : policy.confirmed tip ≤ final)
    (inside : worlds world) :
    policy.scanAbove source tip (policy.reached last tip) world =
      .ok (calls.flatMap Episode.sightings) := by
  induction calls generalizing last world with
  | nil =>
    obtain rfl : last = some final := ends
    have empty : (policy.confirmed tip - (final + 1) + 1).toNat = 0 := by omega
    change policy.scanAbove source tip final world = .ok []
    rw [scanAbove, scanRange, empty, scanFrom_zero]
    rfl
  | cons call calls ih =>
    cases linked with
    | cons _ step linked =>
      obtain ⟨found, given, -, front⟩ := step.front
      obtain ⟨later, stays, whole⟩ := front world inside
      have rest := ih linked ends stays
      rw [step.moved] at rest
      rw [whole, List.flatMap_cons, Episode.sightings, given]
      exact congrArg (Except.map (found ++ ·)) rest

theorem asked_of_advances (linked : Linked (policy.Advances source worlds tip) last calls)
    {final : Int} (ends : lastAfter last calls = some final)
    (caught : policy.confirmed tip ≤ final) :
    calls.flatMap (·.journal.asked) =
      heightsTo (policy.reached last tip + 1) (policy.confirmed tip) := by
  induction calls generalizing last with
  | nil =>
    obtain rfl : last = some final := ends
    have empty : (policy.confirmed tip - (final + 1) + 1).toNat = 0 := by omega
    change [] = heightsFrom (final + 1) (policy.confirmed tip - (final + 1) + 1).toNat
    rw [empty]
    rfl
  | cons call calls ih =>
    cases linked with
    | cons _ step linked =>
      have rest := ih linked ends
      have due_le : policy.due last tip ≤ (policy.confirmed tip - policy.reached last tip).toNat :=
        Nat.min_le_right _ _
      have behind : policy.reached call.last tip =
          policy.reached last tip + policy.due last tip := by
        rw [step.moved]
        rfl
      have meets : policy.reached call.last tip + 1 =
          policy.reached last tip + 1 + policy.due last tip := by omega
      have whole : policy.due last tip +
          (policy.confirmed tip - (policy.reached last tip + 1 + policy.due last tip) + 1).toNat =
            (policy.confirmed tip - (policy.reached last tip + 1) + 1).toNat := by omega
      rw [List.flatMap_cons, step.asked, rest, dueHeights, heightsTo, meets, heightsFrom_append,
        whole, heightsTo]

/-- The number of calls after which nothing is left to scan: one if there is no last scanned height,
else the number of batches up to the highest confirmed height. -/
def callsNeeded (policy : Policy) (tip : Int) : Option Int → Nat
  | none => 1
  | some known => (tip - policy.confirmations + 1 - known).toNat ⌈/⌉ policy.batchSize

theorem lastAfter_of_unstarted
    (linked : Linked (policy.Advances source worlds tip) none calls) (some_call : calls ≠ []) :
    lastAfter none calls = some (max (policy.confirmed tip) (-1)) := by
  cases calls with
  | nil => exact absurd rfl some_call
  | cons call calls =>
    have ends := lastAfter_of_advances (linked_of_none linked)
    rw [List.length_cons, Nat.mul_succ] at ends
    have positive := policy.batchSize_pos
    change lastAfter none (call :: calls) = _ at ends
    rw [ends, baseline]
    congr 1
    omega

theorem caughtUp_iff (linked : Linked (policy.Advances source worlds tip) last calls) :
    lastAfter last calls = some (max (policy.reached last tip) (policy.confirmed tip)) ↔
      policy.callsNeeded tip last ≤ calls.length := by
  cases last with
  | none =>
    by_cases some_call : calls = []
    · rw [some_call]
      exact iff_of_false nofun (Nat.not_succ_le_zero 0)
    · have ends := lastAfter_of_unstarted linked some_call
      have positive := policy.batchSize_pos
      have far : max (policy.confirmed tip) (-1) =
          max (policy.reached none tip) (policy.confirmed tip) := by
        change _ = max (max (policy.confirmed tip - policy.batchSize) (-1)) (policy.confirmed tip)
        omega
      rw [far] at ends
      exact iff_of_true ends (List.length_pos_iff.mpr some_call)
  | some known =>
    rw [lastAfter_of_advances linked, callsNeeded, ceilDiv_le_iff_le_mul policy.batchSize_pos,
      Option.some.injEq]
    have highest : policy.confirmed tip = tip - policy.confirmations + 1 := rfl
    change _ = max known (policy.confirmed tip) ↔ _
    omega

theorem idle_of_advances {run later : List (ScanCall ε δ)} {call : ScanCall ε δ}
    (linked : Linked (policy.Advances source worlds tip) last (run ++ call :: later))
    (enough : policy.callsNeeded tip last ≤ run.length) :
    call.result = .ok [] ∧ call.journal.asked = [] ∧ call.last = call.before := by
  obtain ⟨front, back⟩ := linked.of_append
  rw [(caughtUp_iff front).mpr enough] at back
  cases back with
  | cons starts step _ =>
    have none : policy.confirmed tip ≤ policy.reached
        (some (max (policy.reached last tip) (policy.confirmed tip))) tip := Int.le_max_right _ _
    obtain ⟨found, given, empty, -⟩ := step.front
    refine ⟨?_, ?_, ?_⟩
    · rw [given, empty (policy.due_eq_zero none)]
    · rw [step.asked, policy.dueHeights_eq_nil none]
    · rw [starts, step.moved, policy.due_eq_zero none, Nat.cast_zero, Int.add_zero]
      rfl

end Run

/-- Calls under a tip that stays scan what is left, and then nothing. -/
structure CatchesUp (policy : Policy) (source : BlockSource (StateM σ) ε) (worlds : σ → Prop)
    (tip : Int) (last : Option Int) (calls : List (ScanCall ε δ)) : Prop where
  succeeds : ∀ call ∈ calls, call.result.isOk
  /-- The highest confirmed height is reached after just as many calls as are needed. A last scanned
  height above it stays. -/
  reached_iff : lastAfter last calls =
      some (max (policy.reached last tip) (tip - policy.confirmations + 1)) ↔
    policy.callsNeeded tip last ≤ calls.length
  unstarted : last = none → calls ≠ [] →
    lastAfter last calls = some (max (tip - policy.confirmations + 1) (-1))
  whole : policy.callsNeeded tip last ≤ calls.length → ∀ world, worlds world →
    (policy.scanRange source (policy.reached last tip + 1) (tip - policy.confirmations + 1)
      world).1.result = .ok (calls.flatMap Episode.sightings)
  once : policy.callsNeeded tip last ≤ calls.length → calls.flatMap (·.journal.asked) =
    heightsTo (policy.reached last tip + 1) (tip - policy.confirmations + 1)
  /-- Every further call gives nothing, asks for no block and leaves the height. -/
  further : ∀ run call later, calls = run ++ call :: later →
    policy.callsNeeded tip last ≤ run.length →
    call.result = .ok [] ∧ call.journal.asked = [] ∧ call.last = call.before

/-- While the tip stays and no block is missing, scans for new blocks catch up with the highest
confirmed height and stay there. -/
theorem scanNew_catchesUp (policy : Policy) {source : BlockSource (StateM σ) ε}
    {worlds : σ → Prop} {tip : Int} (settled : source.Settled worlds tip) {world : σ}
    (inside : worlds world) (last : Option Int)
    (complete : source.Complete world (policy.reached last tip + 1) (tip - policy.confirmations + 1))
    (changes : List (σ → σ))
    (kept : ∀ change ∈ changes, ∀ world, worlds world → worlds (change world)) :
    let calls : List (ScanCall ε δ) :=
      episodes (policy.scanNew source.noted) changes last world
    calls.length = changes.length ∧
      calls.map (fun call => (call.result, call.last)) =
        outcomes (policy.scanNew source) changes last world ∧
      policy.CatchesUp source worlds tip last calls := by
  intro calls
  have invisible : ∀ last, Journaled (fun _ : Note ε δ => True) (policy.scanNew source last)
      (policy.scanNew source.noted last) :=
    scanNew_journaled (fun _ => trivial) fun _ _ => trivial
  let within (last : Option Int) (world : σ) : Prop := worlds world ∧
    source.Complete world (policy.reached last tip + 1) (policy.confirmed tip)
  have linked : Linked (policy.Advances source worlds tip) last calls := by
    apply episodes_linked_within within _ _ ⟨inside, complete⟩
    · intro last world starts
      exact scanNew_advances settled starts.1 starts.2
    · intro change member last world starts
      have stays := kept change member world starts.1
      exact ⟨stays, settled.complete starts.1 stays starts.2⟩
  refine ⟨length_episodes _ _ _ _, episodes_outcomes invisible _ _ _, ?_⟩
  have caught : policy.confirmed tip ≤ max (policy.reached last tip) (policy.confirmed tip) :=
    Int.le_max_right _ _
  exact
    { succeeds := by
        intro call member
        obtain ⟨found, given, -⟩ := (linked.holds call member).front
        rw [given]
        rfl
      reached_iff := caughtUp_iff linked
      unstarted := by
        rintro rfl some_call
        exact lastAfter_of_unstarted linked some_call
      whole := fun enough world inside =>
        scanAbove_of_advances linked ((caughtUp_iff linked).mpr enough) caught inside
      once := fun enough => asked_of_advances linked ((caughtUp_iff linked).mpr enough) caught
      further := by
        intro run call later parts enough
        rw [parts] at linked
        exact idle_of_advances linked enough }

/-- From height one on, three calls in batches of two reach height six, and two calls do not. A first
call without a height reaches it at once. -/
theorem scanNew_catchesUp_in_three :
    let detector : Detector :=
      ⟨⟨"v1", [0xac]⟩, fun _ => .error (.refused "no terms"), Declaration.standardTag⟩
    let policy : Policy := ⟨[detector], 2, 2, 30, none, by simp, by decide⟩
    let source : BlockSource (StateM Nat) Int :=
      { tip := fun asked => (.ok 7, asked)
        blockAt := fun height asked =>
          (if height ≤ 7 then .ok ⟨"block", some height, []⟩ else .error height, asked + 1) }
    let run (last : Option Int) (count : Nat) : List (ScanCall Int Empty) :=
      episodes (policy.scanNew source.noted) (List.replicate count id) last 0
    source.Settled (fun _ => True) 7 ∧ source.Complete 0 2 6 ∧
      lastAfter (some 1) (run (some 1) 3) = some 6 ∧
      lastAfter (some 1) (run (some 1) 2) ≠ some 6 ∧
      (policy.scanRange source 2 6 0).1.result =
        .ok ((run (some 1) 3).flatMap Episode.sightings) ∧
      lastAfter none (run none 1) = some 6 := by
  intro detector policy source run
  have settled : source.Settled (fun _ => True) 7 :=
    { tip_eq := fun _ _ => rfl
      tip_stays := fun _ _ => trivial
      answer_eq := fun _ _ _ _ => rfl
      block_stays := fun _ _ _ => trivial }
  have complete (first : Int) : source.Complete 0 first 6 :=
    fun height _ high => ⟨_, if_pos (by omega)⟩
  have caught (last : Option Int) (count : Nat) :=
    (policy.scanNew_catchesUp (δ := Empty) settled trivial last (complete _)
      (List.replicate count id) (by simp)).2.2
  refine ⟨settled, complete 2, ?_, ?_, ?_, ?_⟩
  · apply (caught (some 1) 3).reached_iff.mpr
    rw [length_episodes]
    decide
  · intro ends
    have enough := (caught (some 1) 2).reached_iff.mp ends
    rw [length_episodes] at enough
    exact absurd enough (by decide)
  · apply (caught (some 1) 3).whole _ 0 trivial
    rw [length_episodes]
    decide
  · apply (caught none 1).unstarted rfl
    exact List.ne_nil_of_length_pos (by rw [length_episodes]; decide)

end Policy

end SwapWatch
