import SwapWatch.Follow.Run

/-!
# Journals

A journal holds what a follower was answered, in order. Keeping one changes neither what an activity
gives nor what it does to the world.
-/

set_option autoImplicit false

namespace SwapWatch

/-- An answer that a follower was given. -/
inductive Note (ε δ : Type) where
  | tip (answer : Except ε Int)
  | block (height : Int) (answer : Except ε Block)
  | offer (sighting : Sighting) (answer : Except δ Unit)

abbrev Journal (ε δ : Type) := List (Note ε δ)

variable {σ ε δ : Type}

namespace Journal

def tips (journal : Journal ε δ) : List (Except ε Int) :=
  journal.filterMap fun
    | .tip answer => some answer
    | _ => none

def tip? (journal : Journal ε δ) : Option Int :=
  journal.tips.head?.bind Except.toOption

def asked (journal : Journal ε δ) : List Int :=
  journal.filterMap fun
    | .block height _ => some height
    | _ => none

/-- The blocks that were had, each with the height at which it was asked for. -/
def blocks (journal : Journal ε δ) : List (Int × Block) :=
  journal.filterMap fun
    | .block height (.ok block) => some (height, block)
    | _ => none

def accepted (journal : Journal ε δ) : List Sighting :=
  journal.filterMap fun
    | .offer sighting (.ok ()) => some sighting
    | _ => none

end Journal

/-- An action that keeps a journal: its answer is noted behind the others. -/
def noting {α : Type} (note : α → Note ε δ) (action : StateM σ α) : StateM (σ × Journal ε δ) α :=
  fun (world, journal) =>
    let (answer, world) := action world
    (answer, world, journal ++ [note answer])

def unnoted {α : Type} (action : StateM σ α) : StateM (σ × Journal ε δ) α :=
  fun (world, journal) =>
    let (answer, world) := action world
    (answer, world, journal)

/-- The source with every answer noted. -/
def BlockSource.noted (source : BlockSource (StateM σ) ε) :
    BlockSource (StateM (σ × Journal ε δ)) ε where
  tip := noting .tip source.tip
  blockAt height := noting (.block height) (source.blockAt height)

def Sink.noted (sink : Sink (StateM σ) δ) : Sink (StateM (σ × Journal ε δ)) δ := fun sighting =>
  noting (.offer sighting) (sink sighting)

def Runner.noted (runner : Runner (StateM σ) ε δ) : Runner (StateM (σ × Journal ε δ)) ε δ where
  source := runner.source.noted
  sink := runner.sink.noted
  log entry := unnoted (runner.log entry)
  pause last := unnoted (runner.pause last)
  describe := runner.describe

/-- `kept` does what `plain` does and adds notes with a property to the journal, which it never
reads. -/
def Journaled {α : Type} (holds : Note ε δ → Prop) (plain : StateM σ α)
    (kept : StateM (σ × Journal ε δ) α) : Prop :=
  ∀ world, ∃ notes : Journal ε δ, (∀ note ∈ notes, holds note) ∧ ∀ journal,
    kept (world, journal) = ((plain world).1, (plain world).2, journal ++ notes)

namespace Journaled

variable {α β : Type} {holds : Note ε δ → Prop}

theorem pure (value : α) :
    Journaled holds (Pure.pure value : StateM σ α) (Pure.pure value) :=
  fun _ => ⟨[], by simp, fun journal => by rw [List.append_nil]; rfl⟩

theorem noting {note : α → Note ε δ} {action : StateM σ α}
    (every : ∀ world, holds (note (action world).1)) :
    Journaled holds action (noting note action) :=
  fun world => ⟨[note (action world).1], by simpa using every world, fun _ => rfl⟩

theorem unnoted (action : StateM σ α) : Journaled holds action (unnoted action) :=
  fun _ => ⟨[], by simp, fun journal => by rw [List.append_nil]; rfl⟩

theorem bind {plain : StateM σ α} {kept : StateM (σ × Journal ε δ) α}
    {next : α → StateM σ β} {nextKept : α → StateM (σ × Journal ε δ) β}
    (first : Journaled holds plain kept)
    (second : ∀ value, Journaled holds (next value) (nextKept value)) :
    Journaled holds (plain >>= next) (kept >>= nextKept) := by
  intro world
  obtain ⟨notes, sound, keeps⟩ := first world
  obtain ⟨later, soundLater, keepsLater⟩ := second (plain world).1 (plain world).2
  refine ⟨notes ++ later, ?_, fun journal => ?_⟩
  · intro note member
    exact (List.mem_append.mp member).elim (sound note) (soundLater note)
  · change nextKept (kept (world, journal)).1 (kept (world, journal)).2 = _
    rw [keeps, keepsLater, List.append_assoc]
    rfl

theorem map (f : α → β) {plain : StateM σ α} {kept : StateM (σ × Journal ε δ) α}
    (keeps : Journaled holds plain kept) : Journaled holds (f <$> plain) (f <$> kept) :=
  keeps.bind fun value => .pure (f value)

end Journaled

variable {source : BlockSource (StateM σ) ε} {sink : Sink (StateM σ) δ} {policy : Policy}
  {holds : Note ε δ → Prop}

theorem BlockSource.fetch_journaled
    (blocks : ∀ height world, holds (.block height (source.blockAt height world).1))
    (heights : List Int) :
    Journaled holds (source.fetch heights) (source.noted.fetch heights) := by
  induction heights with
  | nil => exact .pure _
  | cons height heights ih =>
    exact (Journaled.noting (blocks height)).bind fun _ => ih.bind fun _ => .pure _

theorem Sink.deliver_journaled
    (offers : ∀ sighting world, holds (.offer sighting (sink sighting world).1))
    (sightings : List Sighting) :
    Journaled holds (sink.deliver sightings) (sink.noted.deliver sightings) := by
  induction sightings with
  | nil => exact .pure _
  | cons sighting sightings ih =>
    refine (Journaled.noting (offers sighting)).bind fun answer => ?_
    cases answer with
    | error refusal => exact .pure _
    | ok _ => exact ih

namespace Policy

theorem scanFrom_journaled
    (blocks : ∀ height world, holds (.block height (source.blockAt height world).1))
    (first : Int) (count : Nat) :
    Journaled holds (policy.scanFrom source first count)
      (policy.scanFrom source.noted first count) := by
  induction count using Nat.strongRecOn generalizing first with
  | ind count ih =>
    rw [scanFrom.eq_def policy source, scanFrom.eq_def policy source.noted]
    by_cases empty : count = 0
    · rw [if_pos empty, if_pos empty]
      exact .pure _
    · rw [if_neg empty, if_neg empty]
      refine (BlockSource.fetch_journaled blocks _).bind fun fetched => ?_
      cases fetched with
      | error fault => exact .pure _
      | ok blocks =>
        have positive := policy.batchSize_pos
        exact (ih _ (by omega) _).bind fun _ => .pure _

theorem scanNew_journaled (tips : ∀ world, holds (.tip (source.tip world).1))
    (blocks : ∀ height world, holds (.block height (source.blockAt height world).1))
    (last : Option Int) :
    Journaled holds (policy.scanNew source last) (policy.scanNew source.noted last) := by
  refine ((Journaled.noting tips).map _).bind fun confirmed => ?_
  cases confirmed with
  | error fault => exact .pure _
  | ok confirmed =>
    dsimp only
    split
    · exact .pure _
    · refine (scanFrom_journaled blocks _ _).bind fun scanned => ?_
      cases scanned.result with
      | error fault => exact .pure _
      | ok sightings => exact .pure _

theorem pass_journaled (tips : ∀ world, holds (.tip (source.tip world).1))
    (blocks : ∀ height world, holds (.block height (source.blockAt height world).1))
    (offers : ∀ sighting world, holds (.offer sighting (sink sighting world).1))
    (last : Option Int) :
    Journaled holds (policy.pass source sink last) (policy.pass source.noted sink.noted last) := by
  refine (scanNew_journaled tips blocks last).bind fun scanned => ?_
  cases scanned.result with
  | error fault => exact .pure _
  | ok sightings =>
    refine (Sink.deliver_journaled offers sightings).bind fun delivered => ?_
    cases delivered with
    | error refusal => exact .pure _
    | ok _ => exact .pure _

end Policy

end SwapWatch
