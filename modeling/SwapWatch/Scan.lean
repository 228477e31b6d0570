import SwapWatch.Block
import SwapWatch.Detection.Detector

/-!
# Scanning transactions and blocks

Events are looked for with a list of detectors, transaction by transaction and block by block.
-/

set_option autoImplicit false

/-!
## Log entries

What is logged while transactions are scanned and a chain is followed. An entry has a level, a title
and named fields.
-/

namespace SwapWatch

inductive LogEntry where
  | depositRejected (txHash : String) (error : CovenantError)
  | depositMismatched (txHash : String) (expected actual : Bytes)
  | eventFound (event : Event) (height : Option Int)
  /-- Blocks up to and including the last one are about to be scanned. -/
  | scanning (first last : Int)
  | emitted (count : Nat)
  | starting (covenants : List String)
  | failed (message : Text.Points)
  | stopping
deriving DecidableEq, Repr

namespace LogEntry

def level : LogEntry → String
  | depositRejected .. | depositMismatched .. | scanning .. => "debug"
  | eventFound .. | emitted .. | starting .. | stopping => "info"
  | failed .. => "error"

def title : LogEntry → String
  | depositRejected .. => "htlc_deposit_rejected"
  | depositMismatched .. => "htlc_deposit_script_hash_mismatch"
  | eventFound .. => "htlc_event_found"
  | scanning .. => "Scanning blocks"
  | emitted .. => "Emitted HTLC events"
  | starting .. => "Starting HTLC watcher"
  | failed .. => "Error in watcher loop"
  | stopping => "Stopping HTLC watcher"

def fields : LogEntry → List (Text.Points × Json)
  | depositRejected txHash error => [("tx_hash", .text txHash), ("reason", .text error.message)]
  | depositMismatched txHash expected actual =>
    [("tx_hash", .text txHash),
     ("expected", .text (Hex.encode expected)),
     ("actual", .text (Hex.encode actual))]
  | eventFound event height =>
    [("type", .text event.kind), ("height", .ofHeight height), ("tx_hash", .text event.txHash)]
  | scanning first last => [("start", .int first), ("end", .int last)]
  | emitted count => [("count", .int count)]
  | starting covenants => [("covenants", .list (covenants.map Json.ofString))]
  | failed message => [("error", .text message)]
  | stopping => []

end LogEntry

def DepositVerdict.log (txHash : String) : DepositVerdict → List LogEntry
  | rejected error => [.depositRejected txHash error]
  | mismatched expected actual => [.depositMismatched txHash expected actual]
  | unrelated | accepted _ => []

/-!
## Events of a transaction

A transaction has at most one event of each kind. The detectors are tried in order and the first
match wins, so versions whose bytecodes overlap never report a transaction twice.
-/

/-- The events of a transaction: a deposit, a receipt and a refund, each if some detector finds
it. -/
def classify (detectors : List Detector) (tx : Transaction) : List Event :=
  ((detectors.findSome? (·.deposit? tx)).map Event.deposit).toList ++
    ((detectors.findSome? (·.receipt? tx)).map Event.receipt).toList ++
    ((detectors.findSome? (·.refund? tx)).map Event.refund).toList

/-- What is logged while a transaction is classified: the refusals of the detectors in front of the
first one that finds a deposit. -/
def classifyLog : List Detector → Transaction → List LogEntry
  | [], _ => []
  | detector :: detectors, tx =>
    match detector.judgeDeposit tx with
    | .accepted _ => []
    | verdict => verdict.log tx.txid ++ classifyLog detectors tx

/-!
## Events of blocks

Every block is scanned on its own. The events of a block are its deposits, then its receipts, then
its refunds, each in the order of the block. Scanned blocks are merged in the order of their
heights; a block of unknown height counts as one below zero.
-/

structure BlockEvents where
  blockHash : String
  height : Option Int
  deposits : List Deposit
  receipts : List Receipt
  refunds : List Refund
deriving DecidableEq, Repr

abbrev Sighting := Option Int × Event

namespace BlockEvents

def size (found : BlockEvents) : Nat :=
  found.deposits.length + found.receipts.length + found.refunds.length

/-- Deposits, then receipts, then refunds. -/
def events (found : BlockEvents) : List Event :=
  found.deposits.map .deposit ++ found.receipts.map .receipt ++ found.refunds.map .refund

def sightings (found : BlockEvents) : List Sighting :=
  found.events.map fun event => (found.height, event)

def rank (found : BlockEvents) : Int :=
  found.height.getD (-1)

def ofBlock (detectors : List Detector) (block : Block) : BlockEvents :=
  let events := block.transactions.flatMap (classify detectors)
  { blockHash := block.hash
    height := block.height
    deposits := events.filterMap fun
      | .deposit record => some record
      | _ => none
    receipts := events.filterMap fun
      | .receipt record => some record
      | _ => none
    refunds := events.filterMap fun
      | .refund record => some record
      | _ => none }

/-- What is logged while a block is scanned: the refusals for each transaction, then the events. -/
def log (detectors : List Detector) (block : Block) : List LogEntry :=
  block.transactions.flatMap (classifyLog detectors) ++
    (ofBlock detectors block).events.map fun event => .eventFound event block.height

/-- The events of scanned blocks in the order of their heights. Blocks of one height keep their
order. -/
def merge (parts : List BlockEvents) : List Sighting :=
  (parts.mergeSort fun left right => left.rank ≤ right.rank).flatMap sightings

end BlockEvents

end SwapWatch
