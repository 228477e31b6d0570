import SwapWatch.Proofs.Follow.Journal

/-!
# What one call can do

The ways in which one scan for new blocks and one pass can go, each with its journal, its result and
the last scanned height after it.
-/

set_option autoImplicit false

namespace SwapWatch

variable {σ ε δ : Type}

namespace Policy

/-- The height up to which blocks count as scanned once the tip is known. Without a last scanned
height it is one batch below the highest confirmed height, but not below minus one. -/
def reached (policy : Policy) (last : Option Int) (tip : Int) : Int :=
  last.getD (max (tip - policy.confirmations + 1 - policy.batchSize) (-1))

def due (policy : Policy) (last : Option Int) (tip : Int) : Nat :=
  min policy.batchSize (policy.confirmed tip - policy.reached last tip).toNat

def dueHeights (policy : Policy) (last : Option Int) (tip : Int) : List Int :=
  heightsFrom (policy.reached last tip + 1) (policy.due last tip)

/-- How a scan for new blocks can go: its journal, its result and the last scanned height after
it. -/
inductive Call (policy : Policy) (last : Option Int) :
    Journal ε δ → Except ε (List Sighting) → Option Int → Prop where
  | unread (fault : ε) : Call policy last [.tip (.error fault)] (.error fault) last
  | failed (tip : Int) (answers : List (Except ε Block)) (fault : ε) :
      answers.length = policy.due last tip → answers.mapM id = .error fault →
      Call policy last
        (.tip (.ok tip) :: List.zipWith .block (policy.dueHeights last tip) answers)
        (.error fault) (some (policy.reached last tip))
  | scanned (tip : Int) (blocks : List Block) :
      blocks.length = policy.due last tip →
      Call policy last
        (.tip (.ok tip) :: List.zipWith .block (policy.dueHeights last tip) (blocks.map .ok))
        (.ok (policy.scanBlocks blocks)) (some (policy.reached last tip + policy.due last tip))

/-- How a pass can go. A refusal by the sink comes after the last scanned height has moved on. -/
inductive Passed (policy : Policy) (last : Option Int) :
    Journal ε δ → Except (PassError ε δ) Nat → Option Int → Prop where
  | missed {notes : Journal ε δ} {fault : ε} {next : Option Int} :
      Call policy last notes (.error fault) next →
      Passed policy last notes (.error (.source fault)) next
  | refused {notes : Journal ε δ} {next : Option Int} (taken : List Sighting) (sighting : Sighting)
      (later : List Sighting) (refusal : δ) :
      Call policy last notes (.ok (taken ++ sighting :: later)) next →
      Passed policy last
        (notes ++ (taken.map (.offer · (.ok ())) ++ [.offer sighting (.error refusal)]))
        (.error (.sink refusal)) next
  | handed {notes : Journal ε δ} {next : Option Int} (sightings : List Sighting) :
      Call policy last notes (.ok sightings) next →
      Passed policy last (notes ++ sightings.map (.offer · (.ok ()))) (.ok sightings.length) next

end Policy

@[simp]
theorem length_heightsFrom (first : Int) (count : Nat) :
    (heightsFrom first count).length = count := by
  simp [heightsFrom]

theorem mapM_cons_eq_ok_iff {α β : Type} {f : α → Except ε β} {item : α} {items : List α}
    {found : List β} :
    (item :: items).mapM f = .ok found ↔
      ∃ value values, f item = .ok value ∧ items.mapM f = .ok values ∧ found = value :: values := by
  rw [List.mapM_cons]
  cases f item with
  | error fault => simp [bind, Except.bind]
  | ok value =>
    cases items.mapM f with
    | error fault => simp [bind, Except.bind]
    | ok values => simp [bind, Except.bind, pure, Except.pure, eq_comm]

theorem eq_map_ok_of_mapM_id {answers : List (Except ε Block)} {blocks : List Block}
    (collected : answers.mapM id = .ok blocks) : answers = blocks.map .ok := by
  induction answers generalizing blocks with
  | nil =>
    cases collected
    rfl
  | cons answer answers ih =>
    obtain ⟨block, rest, answered, others, rfl⟩ := mapM_cons_eq_ok_iff.mp collected
    rw [List.map_cons, ← ih others]
    exact congrArg (· :: answers) answered

/-- All blocks are asked for, and every answer is noted, also after one that failed. -/
theorem BlockSource.fetch_noted (source : BlockSource (StateM σ) ε) (heights : List Int)
    (world : σ) (journal : Journal ε δ) :
    ∃ answers after, answers.length = heights.length ∧
      source.noted.fetch heights (world, journal) =
        (answers.mapM id, after, journal ++ List.zipWith .block heights answers) := by
  induction heights generalizing world journal with
  | nil => exact ⟨[], world, rfl, by rw [List.zipWith_nil_left, List.append_nil]; rfl⟩
  | cons height heights ih =>
    let answer := (source.blockAt height world).1
    obtain ⟨answers, after, size, run⟩ :=
      ih (source.blockAt height world).2 (journal ++ [.block height answer])
    refine ⟨answer :: answers, after, by simp [size], ?_⟩
    rw [List.mapM_cons, List.zipWith_cons_cons, List.append_cons]
    change (do
      let block ← answer
      let blocks ← (source.noted.fetch heights (_, _)).1
      return block :: blocks, (source.noted.fetch heights (_, _)).2) = _
    rw [run]
    rfl

namespace Policy

variable (policy : Policy)

theorem scanBlocks_nil : policy.scanBlocks [] = [] := by
  simp [scanBlocks, BlockEvents.merge]

theorem scanFrom_zero {m : Type → Type} [Monad m] (source : BlockSource m ε) (first : Int) :
    policy.scanFrom source first 0 = pure ⟨.ok [], []⟩ := by
  rw [scanFrom.eq_def, if_pos rfl]

section Fetched

variable {source : BlockSource (StateM σ) ε} {first : Int} {count width : Nat} {world after : σ}
  {blocks : List Block}

/-- A scan begins with its first batch and goes on with what is left. -/
theorem scanFrom_batch (some : 0 < count) (batch : min policy.batchSize count = width)
    (fetched : source.fetch (heightsFrom first width) world = (.ok blocks, after)) :
    policy.scanFrom source first count world =
      let others := policy.scanFrom source (first + width) (count - width) after
      (⟨others.1.result.map (policy.scanBlocks blocks ++ ·),
        policy.logBlocks blocks ++ others.1.log⟩, others.2) := by
  rw [scanFrom.eq_def, if_neg (Nat.ne_of_gt some), batch]
  simp only [bind, StateT.bind, fetched]
  rfl

theorem scanFrom_once (some : 0 < width) (fits : width ≤ policy.batchSize)
    (fetched : source.fetch (heightsFrom first width) world = (.ok blocks, after)) :
    policy.scanFrom source first width world =
      (⟨.ok (policy.scanBlocks blocks), policy.logBlocks blocks⟩, after) := by
  rw [policy.scanFrom_batch some (Nat.min_eq_right fits) fetched, Nat.sub_self, scanFrom_zero]
  change (Logged.mk (.ok (policy.scanBlocks blocks ++ [])) (policy.logBlocks blocks ++ []), _) = _
  rw [List.append_nil, List.append_nil]
  rfl

end Fetched

/-- A range that fits into one batch is fetched at once, and scanned if no block is missing. -/
theorem scanFrom_noted (source : BlockSource (StateM σ) ε) (first : Int) {count : Nat}
    (positive : 0 < count) (fits : count ≤ policy.batchSize) (world : σ) (journal : Journal ε δ) :
    ∃ answers after, ∃ log : List LogEntry, answers.length = count ∧
      policy.scanFrom source.noted first count (world, journal) =
        (⟨(answers.mapM id).map policy.scanBlocks, log⟩, after,
          journal ++ List.zipWith .block (heightsFrom first count) answers) := by
  obtain ⟨answers, after, size, fetched⟩ :=
    source.fetch_noted (heightsFrom first count) world journal
  rw [length_heightsFrom] at size
  cases collected : answers.mapM id with
  | error fault =>
    refine ⟨answers, after, [], size, ?_⟩
    rw [scanFrom.eq_def, if_neg (Nat.ne_of_gt positive), Nat.min_eq_right fits, collected]
    rw [collected] at fetched
    simp only [bind, StateT.bind, fetched]
    rfl
  | ok blocks =>
    refine ⟨answers, after, policy.logBlocks blocks, size, ?_⟩
    rw [collected] at fetched ⊢
    exact policy.scanFrom_once positive fits fetched

theorem due_eq_zero {last : Option Int} {tip : Int}
    (none : policy.confirmed tip ≤ policy.reached last tip) : policy.due last tip = 0 := by
  unfold due
  omega

theorem dueHeights_eq_nil {last : Option Int} {tip : Int}
    (none : policy.confirmed tip ≤ policy.reached last tip) : policy.dueHeights last tip = [] := by
  rw [dueHeights, policy.due_eq_zero none]
  rfl

theorem due_pos {last : Option Int} {tip : Int}
    (some : ¬ policy.confirmed tip ≤ policy.reached last tip) : 0 < policy.due last tip := by
  have positive := policy.batchSize_pos
  unfold due
  omega

theorem due_le_batchSize (last : Option Int) (tip : Int) :
    policy.due last tip ≤ policy.batchSize :=
  Nat.min_le_left _ _

theorem final_eq (last : Option Int) (tip : Int)
    (some : ¬ policy.confirmed tip ≤ policy.reached last tip) :
    min (policy.reached last tip + 1 + policy.batchSize - 1) (policy.confirmed tip) =
      policy.reached last tip + policy.due last tip := by
  unfold due
  omega

theorem scanRange_due (source : BlockSource (StateM σ) ε) (last : Option Int) (tip : Int) :
    policy.scanRange source (policy.reached last tip + 1)
        (policy.reached last tip + policy.due last tip) =
      policy.scanFrom source (policy.reached last tip + 1) (policy.due last tip) := by
  rw [scanRange]
  congr
  omega

theorem scanNew_call (source : BlockSource (StateM σ) ε) (last : Option Int) (world : σ) :
    ∃ step after journal, policy.scanNew (source.noted (δ := δ)) last (world, []) =
      (step, after, journal) ∧ policy.Call last journal step.result step.last := by
  have asked : policy.confirmedHeight (source.noted (δ := δ)) (world, []) =
      ((source.tip world).1.map policy.confirmed, (source.tip world).2,
        [.tip (source.tip world).1]) := rfl
  simp only [scanNew, bind, StateT.bind, asked]
  cases (source.tip world).1 with
  | error fault => exact ⟨_, _, _, rfl, .unread fault⟩
  | ok tip =>
    have fold : last.getD (policy.baseline (policy.confirmed tip)) = policy.reached last tip := rfl
    simp only [Except.map, fold]
    by_cases none : policy.confirmed tip ≤ policy.reached last tip
    · have idle := policy.due_eq_zero none
      have call : policy.Call (ε := ε) (δ := δ) last _ _ _ := .scanned tip [] idle.symm
      rw [if_pos none]
      refine ⟨_, _, _, rfl, ?_⟩
      simpa [idle, scanBlocks_nil] using call
    · obtain ⟨answers, after, log, size, scanned⟩ := policy.scanFrom_noted source
        (policy.reached last tip + 1) (policy.due_pos none) (policy.due_le_batchSize last tip)
        (source.tip world).2 [.tip (.ok tip)]
      simp only [if_neg none, final_eq _ _ _ none, scanRange_due, StateT.bind]
      rw [scanned]
      cases collected : answers.mapM id with
      | error fault => exact ⟨_, _, _, rfl, .failed tip answers fault size collected⟩
      | ok blocks =>
        obtain rfl := eq_map_ok_of_mapM_id collected
        exact ⟨_, _, _, rfl, .scanned tip blocks (by simpa using size)⟩

end Policy

theorem Sink.deliver_noted (sink : Sink (StateM σ) δ) (sightings : List Sighting) (world : σ)
    (journal : Journal ε δ) :
    (∃ after, sink.noted.deliver sightings (world, journal) =
      (.ok (), after, journal ++ sightings.map (.offer · (.ok ())))) ∨
    ∃ taken sighting later refusal after, sightings = taken ++ sighting :: later ∧
      sink.noted.deliver sightings (world, journal) =
        (.error refusal, after,
          journal ++ (taken.map (.offer · (.ok ())) ++ [.offer sighting (.error refusal)])) := by
  induction sightings generalizing world journal with
  | nil => exact .inl ⟨world, by rw [List.map_nil, List.append_nil]; rfl⟩
  | cons sighting sightings ih =>
    cases offered : sink sighting world with
    | mk answer middle =>
      have asked : sink.noted (ε := ε) sighting (world, journal) =
          (answer, middle, journal ++ [.offer sighting answer]) := by
        simp only [Sink.noted, noting, offered]
      simp only [deliver, bind, StateT.bind, asked]
      cases answer with
      | error refusal => exact .inr ⟨[], sighting, sightings, refusal, middle, rfl, rfl⟩
      | ok _ =>
        obtain ⟨after, run⟩ | ⟨taken, refused, later, refusal, after, rfl, run⟩ :=
          ih middle (journal ++ [.offer sighting (.ok ())])
        · exact .inl ⟨after, run.trans (by simp)⟩
        · exact .inr ⟨sighting :: taken, refused, later, refusal, after, rfl,
            run.trans (by simp)⟩

theorem Policy.pass_passed (policy : Policy) (source : BlockSource (StateM σ) ε)
    (sink : Sink (StateM σ) δ) (last : Option Int) (world : σ) :
    ∃ step after journal, policy.pass source.noted sink.noted last (world, []) =
      (step, after, journal) ∧ policy.Passed last journal step.result step.last := by
  obtain ⟨scanned, middle, notes, run, call⟩ := policy.scanNew_call (δ := δ) source last world
  simp only [pass, bind, StateT.bind, run]
  cases result : scanned.result with
  | error fault =>
    rw [result] at call
    exact ⟨_, _, _, rfl, .missed call⟩
  | ok sightings =>
    rw [result] at call
    obtain ⟨after, delivered⟩ | ⟨taken, sighting, later, refusal, after, rfl, delivered⟩ :=
      sink.deliver_noted (ε := ε) sightings middle notes
    · simp only [StateT.bind]
      rw [delivered]
      exact ⟨_, _, _, rfl, .handed sightings call⟩
    · simp only [StateT.bind]
      rw [delivered]
      exact ⟨_, _, _, rfl, .refused taken sighting later refusal call⟩

end SwapWatch
