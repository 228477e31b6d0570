import SwapWatch.Detection.Detector
import SwapWatch.Node.Request
import SwapWatch.Scan

/-!
# Scanning a range

Confirmed heights are scanned in batches, with the detectors of a policy.
-/

set_option autoImplicit false

/-!
## Policies

A policy says how a chain is followed: with which detectors, behind how many confirmations and in
batches of which size.
-/

namespace SwapWatch

structure Policy where
  detectors : List Detector
  /-- A block counts as confirmed once it and the blocks above it are this many. -/
  confirmations : Int
  /-- The greatest number of blocks that are asked for at a time. -/
  batchSize : Nat
  pollSeconds : Int
  startHeight : Option Int
  detectors_ne_nil : detectors ≠ []
  batchSize_pos : 0 < batchSize

inductive PolicyError where
  | noDetectors
  | batchSize (given : Int)
deriving DecidableEq, Repr

def PolicyError.message : PolicyError → String
  | noDetectors => "HtlcWatcher requires at least one covenant parser"
  | batchSize given => s!"scan_batch_size must be positive, got {given}"

namespace Policy

def make (detectors : List Detector) (confirmations batchSize pollSeconds : Int)
    (startHeight : Option Int) : Except PolicyError Policy :=
  if someDetector : detectors ≠ [] then
    if positive : 0 < batchSize then
      .ok
        { detectors
          confirmations
          batchSize := batchSize.toNat
          pollSeconds
          startHeight
          detectors_ne_nil := someDetector
          batchSize_pos := by omega }
    else .error (.batchSize batchSize)
  else .error .noDetectors

/-- The last height that counts as scanned before anything is scanned, if a first height is
given. -/
def initial (policy : Policy) : Option Int :=
  policy.startHeight.map (· - 1)

def confirmed (policy : Policy) (tip : Int) : Int :=
  tip - policy.confirmations + 1

/-- The last height that counts as scanned when no first height is given: one batch below the
highest confirmed height, but not below the block at height zero. -/
def baseline (policy : Policy) (confirmed : Int) : Int :=
  max (confirmed - policy.batchSize) (-1)

end Policy

/-!
## Ranges

The blocks of a range are asked for in batches. All blocks of a batch are asked for, in the order of
their heights, even when one of them fails; then the fault of the lowest failing height ends the
scan, and no block of that batch is looked at.
-/

structure Logged (ε α : Type) where
  result : Except ε α
  log : List LogEntry

variable {m : Type → Type} [Monad m] {ε : Type}

/-- Asks for the blocks at all heights. The first fault counts. -/
def BlockSource.fetch (source : BlockSource m ε) : List Int → m (Except ε (List Block))
  | [] => return .ok []
  | height :: heights => do
    let first ← source.blockAt height
    let others ← source.fetch heights
    return do
      let block ← first
      let blocks ← others
      return block :: blocks

def heightsFrom (first : Int) (count : Nat) : List Int :=
  (List.range count).map fun (offset : Nat) => first + (offset : Int)

namespace Policy

def scanBlocks (policy : Policy) (blocks : List Block) : List Sighting :=
  BlockEvents.merge (blocks.map (BlockEvents.ofBlock policy.detectors))

def logBlocks (policy : Policy) (blocks : List Block) : List LogEntry :=
  blocks.flatMap (BlockEvents.log policy.detectors)

/-- Scans `count` blocks from `first` on, batch after batch. -/
def scanFrom (policy : Policy) (source : BlockSource m ε) (first : Int) (count : Nat) :
    m (Logged ε (List Sighting)) :=
  if count = 0 then return ⟨.ok [], []⟩
  else do
    let width := min policy.batchSize count
    match ← source.fetch (heightsFrom first width) with
    | .error fault => return ⟨.error fault, []⟩
    | .ok blocks =>
      let others ← policy.scanFrom source (first + width) (count - width)
      return ⟨others.result.map (policy.scanBlocks blocks ++ ·), policy.logBlocks blocks ++ others.log⟩
termination_by count
decreasing_by
  have positive := policy.batchSize_pos
  omega

def scanRange (policy : Policy) (source : BlockSource m ε) (first last : Int) :
    m (Logged ε (List Sighting)) :=
  policy.scanFrom source first (last - first + 1).toNat

def scanAt (policy : Policy) (source : BlockSource m ε) (height : Int) :
    m (Logged ε BlockEvents) := do
  match ← source.blockAt height with
  | .error fault => return ⟨.error fault, []⟩
  | .ok block =>
    return ⟨.ok (.ofBlock policy.detectors block), BlockEvents.log policy.detectors block⟩

end Policy

end SwapWatch
