import SwapWatch.Proofs.Follow.Episode
import SwapWatch.Proofs.Scan.Merge

/-!
# Every block once

Over any run of scans for new blocks, with tips that move and answers that fail, the confirmed
blocks behind the start are scanned in the order of their heights, none twice and none left out.
-/

set_option autoImplicit false

namespace SwapWatch

variable {σ ε δ : Type}

namespace Episode

/-- The blocks that a call scanned, with their heights. A call that fails scans none. -/
def scanned (call : ScanCall ε δ) : List (Int × Block) :=
  match call.result with
  | .ok _ => call.journal.blocks
  | .error _ => []

def sightings (call : ScanCall ε δ) : List Sighting :=
  call.result.toOption.getD []

end Episode

def NotBelow (earlier later : Option Int) : Prop :=
  ∀ height ∈ earlier, ∃ after ∈ later, height ≤ after

namespace Policy

/-- The height behind which a run starts: the one before the first height, if that is given. Else the
first tip that was had fixes it, one batch below the highest height confirmed under this tip. -/
def start? (policy : Policy) (calls : List (ScanCall ε δ)) : Option Int :=
  match policy.startHeight with
  | some first => some (first - 1)
  | none =>
    (calls.findSome? (·.journal.tip?)).map fun tip =>
      max (tip - policy.confirmations + 1 - policy.batchSize) (-1)

/-- The calls of a run scan each block once. -/
structure ScansOnce (policy : Policy) (calls : List (ScanCall ε δ)) : Prop where
  /-- The scanned heights lead from the start to the last scanned height. -/
  heights : ∀ start, policy.start? calls = some start →
    ∃ final, lastAfter (policy.startHeight.map (· - 1)) calls = some final ∧ start ≤ final ∧
      (calls.flatMap Episode.scanned).map (·.1) = heightsFrom (start + 1) (final - start).toNat
  unstarted : policy.start? calls = none →
    lastAfter (policy.startHeight.map (· - 1)) calls = none ∧ calls.flatMap Episode.scanned = []
  /-- A call asks for at most one batch, and a call that succeeds scans all it asked for. -/
  batch : ∀ call ∈ calls, call.journal.asked.length ≤ policy.batchSize ∧
    (call.result.isOk → call.scanned.map (·.1) = call.journal.asked)
  /-- Each height that is asked for is confirmed under the one tip read in the same call. -/
  confirmed : ∀ call ∈ calls, ∀ height ∈ call.journal.asked,
    ∃ tip, call.journal.tips = [.ok tip] ∧ policy.confirmations ≤ tip - height + 1
  /-- A call gives the events of the blocks that it scanned. -/
  events : ∀ call ∈ calls,
    call.sightings = policy.scanBlocks (call.scanned.map (·.2))
  rising : (policy.startHeight.map (· - 1) :: calls.map (·.last)).Pairwise NotBelow
  /-- A call that fails gives no events and keeps the last scanned height, or fixes the start. -/
  failed : ∀ call ∈ calls, ¬ call.result.isOk →
    call.sightings = [] ∧ (call.last = call.before ∨ call.before = none ∧
      ∃ tip, call.journal.tips = [.ok tip] ∧
        call.last = some (max (tip - policy.confirmations + 1 - policy.batchSize) (-1)))

end Policy

namespace Journal

@[simp]
theorem tips_zipWith_block (heights : List Int) (answers : List (Except ε Block)) :
    tips (List.zipWith .block heights answers : Journal ε δ) = [] := by
  induction heights generalizing answers with
  | nil => simp [tips]
  | cons height heights ih =>
    cases answers with
    | nil => simp [tips]
    | cons answer answers => exact ih answers

theorem asked_zipWith_block {heights : List Int} {answers : List (Except ε Block)}
    (size : answers.length = heights.length) :
    asked (List.zipWith .block heights answers : Journal ε δ) = heights := by
  induction heights generalizing answers with
  | nil => simp [asked]
  | cons height heights ih =>
    cases answers with
    | nil => cases size
    | cons answer answers => exact congrArg (height :: ·) (ih (Nat.succ.inj size))

theorem blocks_zipWith_block (heights : List Int) (found : List Block) :
    blocks (List.zipWith .block heights (found.map .ok) : Journal ε δ) = heights.zip found := by
  induction heights generalizing found with
  | nil => simp [blocks]
  | cons height heights ih =>
    cases found with
    | nil => simp [blocks]
    | cons block found => exact congrArg ((height, block) :: ·) (ih found)

end Journal

theorem pairwise_heightsFrom (first : Int) (count : Nat) :
    (heightsFrom first count).Pairwise (· < ·) := by
  rw [heightsFrom, List.pairwise_map]
  exact List.pairwise_lt_range.imp fun less => by omega

theorem heightsFrom_append (first : Int) (left right : Nat) :
    heightsFrom first left ++ heightsFrom (first + left) right =
      heightsFrom first (left + right) := by
  simp only [heightsFrom, List.range_add, List.map_append, List.map_map]
  congr 1
  apply List.map_congr_left
  intro offset _
  simp only [Function.comp_apply, Int.natCast_add]
  omega

namespace Policy

variable {policy : Policy} {last next : Option Int} {journal : Journal ε δ}
  {result : Except ε (List Sighting)} {sightings : List Sighting}

theorem Call.asked_eq (call : policy.Call last journal result next) :
    (∃ fault, journal.tips = [.error fault] ∧ journal.asked = [] ∧ result = .error fault ∧
      next = last) ∨
    ∃ tip, journal.tips = [.ok tip] ∧ journal.asked = policy.dueHeights last tip := by
  cases call with
  | unread fault => exact .inl ⟨fault, rfl, rfl, rfl, rfl⟩
  | failed tip answers fault size collected =>
    refine .inr ⟨tip, congrArg _ (Journal.tips_zipWith_block _ _), ?_⟩
    exact Journal.asked_zipWith_block (by simpa [dueHeights] using size)
  | scanned tip found size =>
    refine .inr ⟨tip, congrArg _ (Journal.tips_zipWith_block _ _), ?_⟩
    exact Journal.asked_zipWith_block (by simpa [dueHeights] using size)

theorem Call.blocks_eq (call : policy.Call last journal (.ok sightings) next) :
    ∃ tip found, journal.asked = policy.dueHeights last tip ∧
      found.length = policy.due last tip ∧
      journal.blocks = (policy.dueHeights last tip).zip found ∧
      sightings = policy.scanBlocks found ∧
      next = some (policy.reached last tip + policy.due last tip) := by
  cases call with
  | scanned tip found size =>
    have answered : (found.map (Except.ok (ε := ε))).length =
        (policy.dueHeights last tip).length := by simpa [dueHeights] using size
    exact ⟨tip, found, Journal.asked_zipWith_block answered, size,
      Journal.blocks_zipWith_block _ _, rfl, rfl⟩

theorem Call.scanBlocks_eq (call : policy.Call last journal (.ok sightings) next) :
    policy.scanBlocks (journal.blocks.map (·.2)) = sightings := by
  obtain ⟨tip, found, _, size, blocks, rfl, _⟩ := call.blocks_eq
  rw [blocks, List.map_snd_zip (by simp [dueHeights, size])]

theorem Call.last_of_error {fault : ε} (call : policy.Call last journal (.error fault) next) :
    next = last ∨ last = none ∧ ∃ tip, journal.tips = [.ok tip] ∧
      next = some (policy.baseline (policy.confirmed tip)) := by
  cases call with
  | unread => exact .inl rfl
  | failed tip answers fault size collected =>
    cases last with
    | none => exact .inr ⟨rfl, tip, congrArg _ (Journal.tips_zipWith_block _ _), rfl⟩
    | some reached => exact .inl rfl

theorem Call.advances {reached : Int} (call : policy.Call (some reached) journal result next) :
    ∃ final, next = some final ∧ reached ≤ final ∧
      (Episode.scanned ⟨some reached, journal, result, next⟩).map (·.1) =
        heightsFrom (reached + 1) (final - reached).toNat := by
  cases result with
  | error fault =>
    obtain rfl | ⟨absent, _⟩ := call.last_of_error
    · exact ⟨reached, rfl, Int.le_refl _, by simp [Episode.scanned, heightsFrom]⟩
    · cases absent
  | ok sightings =>
    obtain ⟨tip, found, _, size, blocks, rfl, rfl⟩ := call.blocks_eq
    refine ⟨reached + policy.due (some reached) tip, rfl, by omega, ?_⟩
    have due : (reached + policy.due (some reached) tip - reached).toNat =
        policy.due (some reached) tip := by omega
    rw [due]
    simp only [Episode.scanned, blocks]
    exact List.map_fst_zip (by simp [dueHeights, size])

/-- Without a last scanned height, a call that reads a tip does what it would do from the
baseline. -/
theorem Call.of_none {tip : Int} (call : policy.Call none journal result next)
    (read : journal.tips = [.ok tip]) :
    policy.Call (some (policy.baseline (policy.confirmed tip))) journal result next := by
  cases call with
  | unread fault => cases read
  | failed found answers fault size collected =>
    cases (List.cons.inj read).1
    exact .failed tip answers fault size collected
  | scanned found blocks size =>
    cases (List.cons.inj read).1
    exact .scanned tip blocks size

end Policy

theorem heightsFrom_join {low middle high : Int} (rises : low ≤ middle)
    (risesLater : middle ≤ high) :
    heightsFrom (low + 1) (middle - low).toNat ++ heightsFrom (middle + 1) (high - middle).toNat =
      heightsFrom (low + 1) (high - low).toNat := by
  have meets : middle + 1 = low + 1 + ((middle - low).toNat : Int) := by omega
  have whole : (high - low).toNat = (middle - low).toNat + (high - middle).toNat := by omega
  rw [meets, whole, heightsFrom_append]

namespace Policy

variable {policy : Policy} {calls : List (ScanCall ε δ)}

/-- From a known height on, a run scans what lies between this height and the one it leaves. -/
theorem scanned_of_linked {start : Int} (linked : Linked policy.Call (some start) calls) :
    ∃ final, lastAfter (some start) calls = some final ∧ start ≤ final ∧
      (calls.flatMap Episode.scanned).map (·.1) =
        heightsFrom (start + 1) (final - start).toNat := by
  induction calls generalizing start with
  | nil => exact ⟨start, rfl, Int.le_refl _, by simp [heightsFrom]⟩
  | cons call calls ih =>
    obtain ⟨before, journal, result, next⟩ := call
    cases linked with
    | cons _ held linked =>
      obtain ⟨middle, rfl, rises, first⟩ := Call.advances held
      obtain ⟨final, ends, risesLater, later⟩ := ih linked
      refine ⟨final, ends, Int.le_trans rises risesLater, ?_⟩
      rw [List.flatMap_cons, List.map_append, later, ← heightsFrom_join rises risesLater]
      exact congrArg (· ++ _) first

theorem scanned_of_linked_none (linked : Linked policy.Call none calls) :
    match calls.findSome? (·.journal.tip?) with
    | some tip =>
      ∃ final, lastAfter none calls = some final ∧
        policy.baseline (policy.confirmed tip) ≤ final ∧
        (calls.flatMap Episode.scanned).map (·.1) =
          heightsFrom (policy.baseline (policy.confirmed tip) + 1)
            (final - policy.baseline (policy.confirmed tip)).toNat
    | none => lastAfter none calls = none ∧ calls.flatMap Episode.scanned = [] := by
  induction calls with
  | nil => exact ⟨rfl, rfl⟩
  | cons call calls ih =>
    obtain ⟨before, journal, result, next⟩ := call
    cases linked with
    | cons _ held linked =>
      obtain ⟨fault, unread, _, rfl, rfl⟩ | ⟨tip, read, _⟩ := Call.asked_eq held
      · have untold : journal.tip? = none := by simp [Journal.tip?, unread, Except.toOption]
        rw [List.findSome?_cons_of_isNone (by simp [untold])]
        exact ih linked
      · have told : journal.tip? = some tip := by simp [Journal.tip?, read, Except.toOption]
        have known : Linked policy.Call (some (policy.baseline (policy.confirmed tip)))
            (⟨some (policy.baseline (policy.confirmed tip)), journal, result, next⟩ :: calls) :=
          .cons rfl (Call.of_none held read) linked
        rw [List.findSome?_cons_of_isSome (by simp [told])]
        simp only [told]
        exact scanned_of_linked known

theorem rising_of_linked {last : Option Int} (linked : Linked policy.Call last calls) :
    (last :: calls.map (·.last)).Pairwise NotBelow := by
  induction linked with
  | nil => exact List.pairwise_singleton _ _
  | @cons last call calls starts held linked ih =>
    have step : NotBelow last call.last := by
      intro height member
      cases member
      obtain ⟨final, ends, rises, _⟩ := Call.advances held
      exact ⟨final, ends, rises⟩
    rw [List.map_cons, List.pairwise_cons]
    refine ⟨?_, ih⟩
    intro later member
    obtain rfl | member := List.mem_cons.mp member
    · exact step
    · intro height known
      obtain ⟨middle, between, rises⟩ := step height known
      obtain ⟨final, ends, risesLater⟩ :=
        (List.pairwise_cons.mp ih).1 later member middle between
      exact ⟨final, ends, Int.le_trans rises risesLater⟩

theorem bounds_of_mem_dueHeights {last : Option Int} {tip height : Int}
    (due : height ∈ policy.dueHeights last tip) :
    policy.reached last tip + 1 ≤ height ∧ height ≤ policy.confirmed tip := by
  simp only [dueHeights, heightsFrom, List.mem_map, List.mem_range] at due
  obtain ⟨offset, small, rfl⟩ := due
  unfold Policy.due at small
  omega

theorem confirmed_of_mem_dueHeights {last : Option Int} {tip height : Int}
    (due : height ∈ policy.dueHeights last tip) : policy.confirmations ≤ tip - height + 1 := by
  have high := (bounds_of_mem_dueHeights due).2
  unfold confirmed at high
  omega

theorem scansOnce_of_linked (linked : Linked policy.Call policy.initial calls) :
    policy.ScansOnce calls where
  heights start known := by
    change Linked policy.Call (policy.startHeight.map (· - 1)) calls at linked
    cases given : policy.startHeight with
    | some first =>
      simp only [start?, given, Option.some.injEq] at known
      rw [given] at linked
      exact known ▸ scanned_of_linked linked
    | none =>
      rw [given] at linked
      have scans := scanned_of_linked_none linked
      simp only [start?, given, Option.map_eq_some_iff] at known
      obtain ⟨tip, read, rfl⟩ := known
      rw [read] at scans
      exact scans
  unstarted unknown := by
    change Linked policy.Call (policy.startHeight.map (· - 1)) calls at linked
    cases given : policy.startHeight with
    | some first => simp [start?, given] at unknown
    | none =>
      rw [given] at linked
      have scans := scanned_of_linked_none linked
      simp only [start?, given, Option.map_eq_none_iff] at unknown
      rw [unknown] at scans
      exact scans
  batch call member := by
    have held := linked.holds call member
    constructor
    · obtain ⟨_, _, asked, _⟩ | ⟨tip, _, asked⟩ := held.asked_eq
      · simp [asked]
      · simp [asked, dueHeights, due_le_batchSize]
    · intro succeeds
      obtain ⟨before, journal, result, next⟩ := call
      cases result with
      | error fault => cases succeeds
      | ok sightings =>
        obtain ⟨tip, found, asked, size, blocks, _⟩ := held.blocks_eq
        simp only [Episode.scanned, asked, blocks]
        exact List.map_fst_zip (by simp [dueHeights, size])
  confirmed call member height asked := by
    obtain ⟨_, _, none, _⟩ | ⟨tip, read, due⟩ := (linked.holds call member).asked_eq
    · simp [none] at asked
    · rw [due] at asked
      exact ⟨tip, read, confirmed_of_mem_dueHeights asked⟩
  events call member := by
    have held := linked.holds call member
    obtain ⟨before, journal, result, next⟩ := call
    cases result with
    | error fault => exact (scanBlocks_nil policy).symm
    | ok sightings => exact held.scanBlocks_eq.symm
  rising := rising_of_linked linked
  failed call member fails := by
    have held := linked.holds call member
    obtain ⟨before, journal, result, next⟩ := call
    cases result with
    | error fault => exact ⟨rfl, held.last_of_error⟩
    | ok sightings => exact absurd rfl fails

end Policy

/-- Each block that the source gives carries the height at which it was asked for. -/
def BlockSource.Heighted (source : BlockSource (StateM σ) ε) : Prop :=
  ∀ height world block, (source.blockAt height world).1 = .ok block → block.height = some height

def Note.Heighted : Note ε δ → Prop
  | .block height (.ok found) => found.height = some height
  | _ => True

theorem rising_of_heights {blocks : List Block} {first : Int} {count : Nat}
    (heights : blocks.map (·.height) = (heightsFrom first count).map some) :
    blocks.Pairwise fun left right => left.height.getD (-1) ≤ right.height.getD (-1) := by
  have rising : ((heightsFrom first count).map some).Pairwise
      fun left right : Option Int => left.getD (-1) ≤ right.getD (-1) := by
    rw [List.pairwise_map]
    exact (pairwise_heightsFrom first count).imp Int.le_of_lt
  rwa [← heights, List.pairwise_map] at rising

namespace Policy

variable (policy : Policy)

theorem scanBlocks_of_rising {blocks : List Block}
    (rising : blocks.Pairwise fun left right => left.height.getD (-1) ≤ right.height.getD (-1)) :
    policy.scanBlocks blocks =
      blocks.flatMap fun block => (BlockEvents.ofBlock policy.detectors block).sightings := by
  have sorted : BlockEvents.Rising (blocks.map (BlockEvents.ofBlock policy.detectors)) :=
    List.pairwise_map.mpr rising
  rw [scanBlocks, BlockEvents.merge_of_rising sorted, List.flatMap_map]

end Policy

end SwapWatch
