import SwapWatch.Follow.Range

/-!
# Following a chain

A follower keeps the last scanned height, and between its passes nothing else.
-/

set_option autoImplicit false

/-!
## Passes

A pass scans the next batch of confirmed blocks and hands every event to a sink. The last scanned
height moves on when the whole batch was scanned, before its events are handed over.
-/

namespace SwapWatch

/-- What an activity of a follower gave, the last scanned height after it, and what it logged. -/
structure Step (ε α : Type) where
  result : Except ε α
  last : Option Int
  log : List LogEntry

abbrev Sink (m : Type → Type) (δ : Type) := Sighting → m (Except δ Unit)

inductive PassError (ε δ : Type) where
  | source (fault : ε)
  | sink (refusal : δ)

variable {m : Type → Type} [Monad m] {ε δ : Type}

def Sink.deliver (sink : Sink m δ) : List Sighting → m (Except δ Unit)
  | [] => return .ok ()
  | sighting :: sightings => do
    match ← sink sighting with
    | .error refusal => return .error refusal
    | .ok () => deliver sink sightings

namespace Policy

def confirmedHeight (policy : Policy) (source : BlockSource m ε) : m (Except ε Int) :=
  (·.map policy.confirmed) <$> source.tip

def scanNew (policy : Policy) (source : BlockSource m ε) (last : Option Int) :
    m (Step ε (List Sighting)) := do
  match ← policy.confirmedHeight source with
  | .error fault => return ⟨.error fault, last, []⟩
  | .ok confirmed =>
    let reached := last.getD (policy.baseline confirmed)
    if confirmed ≤ reached then return ⟨.ok [], some reached, []⟩
    else
      let first := reached + 1
      let final := min (first + policy.batchSize - 1) confirmed
      let scanned ← policy.scanRange source first final
      let log := .scanning first final :: scanned.log
      match scanned.result with
      | .error fault => return ⟨.error fault, some reached, log⟩
      | .ok sightings => return ⟨.ok sightings, some final, log⟩

/-- Scans the next batch of confirmed blocks and hands its events over. Gives their number. -/
def pass (policy : Policy) (source : BlockSource m ε) (sink : Sink m δ) (last : Option Int) :
    m (Step (PassError ε δ) Nat) := do
  let scanned ← policy.scanNew source last
  match scanned.result with
  | .error fault => return ⟨.error (.source fault), scanned.last, scanned.log⟩
  | .ok sightings =>
    match ← sink.deliver sightings with
    | .error refusal => return ⟨.error (.sink refusal), scanned.last, scanned.log⟩
    | .ok () =>
      let count := sightings.length
      let log := if count = 0 then [] else [.emitted count]
      return ⟨.ok count, scanned.last, scanned.log ++ log⟩

end Policy

/-!
## Runs

A chain is followed by passes with pauses between them. A pass that fails is logged and followed by
the next one. A pause says whether to go on; a fault of the pause itself ends the run at once.
-/

structure Runner (m : Type → Type) (ε δ : Type) where
  source : BlockSource m ε
  sink : Sink m δ
  log : LogEntry → m Unit
  /-- Waits after a pass, knowing the last scanned height, and says whether to go on. -/
  pause : Option Int → m (Except ε Bool)
  describe : PassError ε δ → Text.Points

variable {m : Type → Type} [Monad m] {ε δ : Type}

namespace Runner

def logAll (runner : Runner m ε δ) : List LogEntry → m Unit
  | [] => return ()
  | entry :: entries => do
    runner.log entry
    runner.logAll entries

def passLogged (runner : Runner m ε δ) (policy : Policy) (last : Option Int) : m (Option Int) := do
  let step ← policy.pass runner.source runner.sink last
  runner.logAll step.log
  match step.result with
  | .ok _ => return step.last
  | .error error =>
    runner.log (.failed (runner.describe error))
    return step.last

/-- At most `fuel` passes with pauses between them. Gives the last scanned height, and the fault of
a pause if one ended the run. -/
def passes (runner : Runner m ε δ) (policy : Policy) : Nat → Option Int →
    m (Option Int × Except ε Unit)
  | 0, last => return (last, .ok ())
  | fuel + 1, last => do
    let last ← runner.passLogged policy last
    match ← runner.pause last with
    | .error fault => return (last, .error fault)
    | .ok false => return (last, .ok ())
    | .ok true => runner.passes policy fuel last

def run (runner : Runner m ε δ) (policy : Policy) (fuel : Nat) (last : Option Int) :
    m (Option Int × Except ε Unit) := do
  runner.log (.starting (policy.detectors.map (·.version.name)))
  let (last, result) ← runner.passes policy fuel last
  match result with
  | .error fault => return (last, .error fault)
  | .ok () =>
    runner.log .stopping
    return (last, .ok ())

end Runner

end SwapWatch
