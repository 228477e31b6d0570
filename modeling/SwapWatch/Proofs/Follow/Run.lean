import SwapWatch.Proofs.Follow.Episode

/-!
# Runs as passes

A run that follows a chain makes passes one after another. Logging and pausing between them change
the world, but neither the journal nor the last scanned height.
-/

set_option autoImplicit false

namespace SwapWatch.Runner

variable {σ ε δ : Type} (runner : Runner (StateM σ) ε δ) (policy : Policy)

theorem logAll_noted (entries : List LogEntry) (world : σ) (journal : Journal ε δ) :
    runner.noted.logAll entries (world, journal) =
      ((), (runner.logAll entries world).2, journal) := by
  induction entries generalizing world with
  | nil => rfl
  | cons entry entries ih => exact ih (runner.log entry world).2

theorem passLogged_noted (last : Option Int) (world : σ) (journal : Journal ε δ) :
    ∃ (pass : PassCall ε δ) (after : σ), pass.before = last ∧
      policy.Passed last pass.journal pass.result pass.last ∧
      runner.noted.passLogged policy last (world, journal) =
        (pass.last, after, journal ++ pass.journal) := by
  obtain ⟨step, middle, notes, run, passed⟩ :=
    policy.pass_passed runner.source runner.sink last world
  have journaled : Journaled (fun _ : Note ε δ => True)
      (policy.pass runner.source runner.sink last)
      (policy.pass runner.source.noted runner.sink.noted last) :=
    Policy.pass_journaled (fun _ => trivial) (fun _ _ => trivial) (fun _ _ => trivial) last
  obtain ⟨added, _, keeps⟩ := journaled world
  have fresh := (keeps []).symm.trans run
  rw [List.nil_append, Prod.mk.injEq, Prod.mk.injEq] at fresh
  obtain ⟨rfl, rfl, rfl⟩ := fresh
  have kept : policy.pass runner.noted.source runner.noted.sink last (world, journal) = _ :=
    keeps journal
  let step := (policy.pass runner.source runner.sink last world).1
  simp only [passLogged, bind, StateT.bind, kept, logAll_noted]
  cases step.result with
  | ok count => exact ⟨⟨last, added, step.result, step.last⟩, _, rfl, passed, rfl⟩
  | error error => exact ⟨⟨last, added, step.result, step.last⟩, _, rfl, passed, rfl⟩

/-- A run makes passes, each from where the one before it ended. -/
theorem passes_noted (fuel : Nat) (last : Option Int) (world : σ) (journal : Journal ε δ) :
    ∃ (passes : List (PassCall ε δ)) (result : Except ε Unit) (after : σ),
      Linked policy.Passed last passes ∧
      runner.noted.passes policy fuel last (world, journal) =
        ((lastAfter last passes, result), after, journal ++ passes.flatMap (·.journal)) := by
  induction fuel generalizing last world journal with
  | zero => exact ⟨[], .ok (), world, .nil, by rw [List.flatMap_nil, List.append_nil]; rfl⟩
  | succ fuel ih =>
    obtain ⟨pass, middle, starts, passed, run⟩ :=
      runner.passLogged_noted policy last world journal
    simp only [passes, bind, StateT.bind, run]
    cases paused : runner.pause pass.last middle with
    | mk answer after =>
      have waited : runner.noted.pause pass.last (middle, journal ++ pass.journal) =
          (answer, after, journal ++ pass.journal) := by
        simp only [noted, unnoted, paused]
      rw [waited]
      have single : Linked policy.Passed last [pass] := .cons starts passed .nil
      cases answer with
      | error fault => exact ⟨[pass], .error fault, after, single, by simp [lastAfter]; rfl⟩
      | ok more =>
        cases more with
        | false => exact ⟨[pass], .ok (), after, single, by simp [lastAfter]; rfl⟩
        | true =>
          obtain ⟨passes, result, final, linked, later⟩ :=
            ih pass.last after (journal ++ pass.journal)
          exact ⟨pass :: passes, result, final, .cons starts passed linked,
            later.trans (by simp [lastAfter])⟩

/-- What a whole run noted is what its passes noted. -/
theorem run_noted (fuel : Nat) (last : Option Int) (world : σ) :
    ∃ (passes : List (PassCall ε δ)) (result : Except ε Unit) (after : σ),
      Linked policy.Passed last passes ∧
      runner.noted.run policy fuel last (world, []) =
        ((lastAfter last passes, result), after, passes.flatMap (·.journal)) := by
  let begun := (runner.log (.starting (policy.detectors.map (·.version.name))) world).2
  obtain ⟨passes, result, after, linked, made⟩ := runner.passes_noted policy fuel last begun []
  simp only [run, bind, StateT.bind]
  have started : runner.noted.log (.starting (policy.detectors.map (·.version.name))) (world, []) =
      ((), begun, ([] : Journal ε δ)) := rfl
  rw [started]
  dsimp only
  rw [made]
  cases result with
  | error fault => exact ⟨passes, .error fault, after, linked, rfl⟩
  | ok _ => exact ⟨passes, .ok (), _, linked, rfl⟩

theorem passLogged_journaled (last : Option Int) :
    Journaled (fun _ : Note ε δ => True) (runner.passLogged policy last)
      (runner.noted.passLogged policy last) := by
  have logged : ∀ entries, Journaled (fun _ : Note ε δ => True) (runner.logAll entries)
      (runner.noted.logAll entries) := fun entries world =>
    ⟨[], by simp, fun journal => by rw [logAll_noted, List.append_nil]⟩
  refine (Policy.pass_journaled (fun _ => trivial) (fun _ _ => trivial)
    (fun _ _ => trivial) last).bind fun step => (logged step.log).bind fun _ => ?_
  cases step.result with
  | ok _ => exact .pure _
  | error error => exact (Journaled.unnoted _).bind fun _ => .pure _

theorem passes_journaled (fuel : Nat) (last : Option Int) :
    Journaled (fun _ : Note ε δ => True) (runner.passes policy fuel last)
      (runner.noted.passes policy fuel last) := by
  induction fuel generalizing last with
  | zero => exact .pure _
  | succ fuel ih =>
    refine (runner.passLogged_journaled policy last).bind fun last =>
      (Journaled.unnoted _).bind fun more => ?_
    cases more with
    | error fault => exact .pure _
    | ok more =>
      cases more with
      | false => exact .pure _
      | true => exact ih last

theorem run_journaled (fuel : Nat) (last : Option Int) :
    Journaled (fun _ : Note ε δ => True) (runner.run policy fuel last)
      (runner.noted.run policy fuel last) := by
  refine (Journaled.unnoted _).bind fun _ =>
    (runner.passes_journaled policy fuel last).bind fun ended => ?_
  obtain ⟨last, result⟩ := ended
  cases result with
  | error fault => exact .pure _
  | ok _ => exact (Journaled.unnoted _).bind fun _ => .pure _

end SwapWatch.Runner
