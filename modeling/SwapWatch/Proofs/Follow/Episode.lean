import SwapWatch.Proofs.Follow.Call

/-!
# Runs of calls

A follower calls an activity again and again. Between the calls the world may change in any way; the
follower itself only keeps the last scanned height.
-/

set_option autoImplicit false

namespace SwapWatch

/-- One call of an activity: the last scanned height before it, what was noted during it, what it
gave, and the last scanned height after it. -/
structure Episode (ε δ ρ : Type) where
  before : Option Int
  journal : Journal ε δ
  result : ρ
  last : Option Int

abbrev ScanCall (ε δ : Type) := Episode ε δ (Except ε (List Sighting))

abbrev PassCall (ε δ : Type) := Episode ε δ (Except (PassError ε δ) Nat)

variable {σ ε δ ε' α ρ : Type}

/-- Calls of an activity one after another. Before each of them the world changes. -/
def episodes (activity : Option Int → StateM (σ × Journal ε δ) (Step ε' α)) :
    List (σ → σ) → Option Int → σ → List (Episode ε δ (Except ε' α))
  | [], _, _ => []
  | change :: changes, last, world =>
    let (step, after, journal) := activity last (change world, [])
    ⟨last, journal, step.result, step.last⟩ :: episodes activity changes step.last after

def outcomes (activity : Option Int → StateM σ (Step ε' α)) :
    List (σ → σ) → Option Int → σ → List (Except ε' α × Option Int)
  | [], _, _ => []
  | change :: changes, last, world =>
    let (step, after) := activity last (change world)
    (step.result, step.last) :: outcomes activity changes step.last after

def lastAfter (last : Option Int) : List (Episode ε δ ρ) → Option Int
  | [] => last
  | episode :: run => lastAfter episode.last run

/-- Each call has the property and starts where the one before it ended. -/
inductive Linked (property : Option Int → Journal ε δ → ρ → Option Int → Prop) :
    Option Int → List (Episode ε δ ρ) → Prop where
  | nil {last : Option Int} : Linked property last []
  | cons {last : Option Int} {episode : Episode ε δ ρ} {run : List (Episode ε δ ρ)} :
      episode.before = last → property last episode.journal episode.result episode.last →
      Linked property episode.last run → Linked property last (episode :: run)

@[simp]
theorem length_episodes (activity : Option Int → StateM (σ × Journal ε δ) (Step ε' α))
    (changes : List (σ → σ)) (last : Option Int) (world : σ) :
    (episodes activity changes last world).length = changes.length := by
  induction changes generalizing last world with
  | nil => rfl
  | cons change changes ih => exact congrArg (· + 1) (ih _ _)

/-- Calls that keep to certain worlds and heights are linked by what each of them does there. -/
theorem episodes_linked_within {activity : Option Int → StateM (σ × Journal ε δ) (Step ε' α)}
    {property : Option Int → Journal ε δ → Except ε' α → Option Int → Prop}
    (within : Option Int → σ → Prop)
    (each : ∀ last world, within last world → ∃ step after journal,
      activity last (world, []) = (step, after, journal) ∧
        property last journal step.result step.last ∧ within step.last after)
    {changes : List (σ → σ)}
    (kept : ∀ change ∈ changes, ∀ last world, within last world → within last (change world))
    {last : Option Int} {world : σ} (inside : within last world) :
    Linked property last (episodes activity changes last world) := by
  induction changes generalizing last world with
  | nil => exact .nil
  | cons change changes ih =>
    obtain ⟨keeps, kept⟩ := List.forall_mem_cons.mp kept
    obtain ⟨step, after, journal, run, held, stays⟩ :=
      each last (change world) (keeps last world inside)
    simp only [episodes, run]
    exact .cons rfl held (ih kept stays)

theorem episodes_linked {activity : Option Int → StateM (σ × Journal ε δ) (Step ε' α)}
    {property : Option Int → Journal ε δ → Except ε' α → Option Int → Prop}
    (each : ∀ last world, ∃ step after journal,
      activity last (world, []) = (step, after, journal) ∧
        property last journal step.result step.last)
    (changes : List (σ → σ)) (last : Option Int) (world : σ) :
    Linked property last (episodes activity changes last world) := by
  apply episodes_linked_within (fun _ _ => True) _ (fun _ _ _ _ _ => trivial) trivial
  intro last world _
  obtain ⟨step, after, journal, run, held⟩ := each last world
  exact ⟨step, after, journal, run, held, trivial⟩

theorem Linked.holds {property : Option Int → Journal ε δ → ρ → Option Int → Prop}
    {last : Option Int} {run : List (Episode ε δ ρ)} (linked : Linked property last run) :
    ∀ episode ∈ run, property episode.before episode.journal episode.result episode.last := by
  induction linked with
  | nil => simp
  | cons starts held _ ih =>
    subst starts
    intro episode member
    obtain rfl | member := List.mem_cons.mp member
    · exact held
    · exact ih episode member

theorem Linked.of_append {property : Option Int → Journal ε δ → ρ → Option Int → Prop}
    {last : Option Int} {run later : List (Episode ε δ ρ)}
    (linked : Linked property last (run ++ later)) :
    Linked property last run ∧ Linked property (lastAfter last run) later := by
  induction run generalizing last with
  | nil => exact ⟨.nil, linked⟩
  | cons episode run ih =>
    cases linked with
    | cons starts held linked =>
      obtain ⟨front, back⟩ := ih linked
      exact ⟨.cons starts held front, back⟩

section Journaled

variable {plain : Option Int → StateM σ (Step ε' α)}
  {kept : Option Int → StateM (σ × Journal ε δ) (Step ε' α)} {holds : Note ε δ → Prop}
  (journaled : ∀ last, Journaled holds (plain last) (kept last))

include journaled

/-- Keeping journals is invisible to a whole run. -/
theorem episodes_outcomes (changes : List (σ → σ)) (last : Option Int) (world : σ) :
    (episodes kept changes last world).map (fun episode => (episode.result, episode.last)) =
      outcomes plain changes last world := by
  induction changes generalizing last world with
  | nil => rfl
  | cons change changes ih =>
    obtain ⟨notes, _, run⟩ := journaled last (change world)
    simp only [episodes, outcomes, run, List.map_cons, ih]
    rfl

end Journaled

end SwapWatch
