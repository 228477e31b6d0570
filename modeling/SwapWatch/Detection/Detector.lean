import SwapWatch.Covenant
import SwapWatch.Detection.Event
import SwapWatch.Script.Tokens
import SwapWatch.Transaction

/-!
# Detectors

How the three steps of a swap are recognised in transactions.
-/

set_option autoImplicit false

/-!
## Declared terms

A deposit declares the terms of its swap in an output without value: a tag of the protocol and six
pushes of fixed sizes, numbers highest byte first.
-/

namespace SwapWatch

/-- The terms that a deposit declares, and the sender's address on the counterpart chain. -/
structure Declaration where
  recipientPkh : Bytes
  senderPkh : Bytes
  hashLock : Bytes
  expiration : Nat
  penaltyBps : Nat
  senderEvmAddr : Bytes
deriving DecidableEq, Repr

namespace Declaration

/-- The tag of the protocol, the letters SBAS. -/
def standardTag : Bytes := [0x53, 0x42, 0x41, 0x53]

def ofPushes? (tag : Bytes) : List Bytes → Option Declaration
  | [found, recipient, sender, hashLock, expiration, penalty, address] =>
    if found = tag ∧ recipient.length = 20 ∧ sender.length = 20 ∧ hashLock.length = 32 ∧
        expiration.length = 2 ∧ penalty.length = 2 ∧ address.length = 20 then
      some ⟨recipient, sender, hashLock, Endian.toNatBig expiration, Endian.toNatBig penalty, address⟩
    else none
  | _ => none

def ofScript? (tag script : Bytes) : Option Declaration := do
  ofPushes? tag (← Script.carriedData? script)

def terms (declaration : Declaration) : Terms :=
  ⟨declaration.senderPkh, declaration.recipientPkh, declaration.hashLock, declaration.expiration,
   declaration.penaltyBps⟩

end Declaration

end SwapWatch

/-!
## Spending scripts

A spend of a covenant output ends with the bytecode of its version. A claim pushes the secret, a
selector and the redeem script; a reclaim is the code of one followed by one more operation.
-/

namespace SwapWatch.Spend

/-- The secret in a claim. Only the number of pushes and the size of the first one are checked. -/
def secretOfPushes? : List Bytes → Option String
  | [secret, _, _] => if secret.length = 32 then some (Hex.encode secret) else none
  | _ => none

def secret? (script bytecode : Bytes) : Option String :=
  if Script.endsWith script bytecode then
    match Script.pushedData script with
    | .ok pushes => secretOfPushes? pushes
    | .error _ => none
  else none

/-- Has a disassembly two pieces, of which the first is the number one? -/
def isReclaimLine (line : String) : Bool :=
  match line.toList.splitOn ' ' with
  | [selector, _] => selector = ['1']
  | _ => false

def isReclaim (script bytecode : Bytes) : Bool :=
  Script.endsWith script bytecode &&
    match Script.disassemble script with
    | .ok line => isReclaimLine line
    | .error _ => false

end SwapWatch.Spend

/-!
## Detectors

A detector looks for the steps of swaps under one version of the covenant. A transaction that is no
step of a swap is no error: it is not detected.
-/

namespace SwapWatch

structure Detector where
  version : Version
  oracle : Oracle
  tag : Bytes := Declaration.standardTag

inductive DepositVerdict where
  | unrelated
  | rejected (error : CovenantError)
  /-- The locked output commits to another script than the declared terms have. -/
  | mismatched (expected actual : Bytes)
  | accepted (record : Deposit)
deriving DecidableEq, Repr

namespace Detector

def ofCovenant (covenant : Covenant) (tag : Bytes) : Detector :=
  ⟨covenant.version, covenant.redeemHash, tag⟩

def judgeDeclared (detector : Detector) (txid : String) (value : Int) (scriptHash : Bytes)
    (declaration : Declaration) : DepositVerdict :=
  match detector.oracle declaration.terms with
  | .error error => .rejected error
  | .ok expected =>
    if expected = scriptHash then
      .accepted
        { txHash := txid
          recipientPkh := declaration.recipientPkh
          senderPkh := declaration.senderPkh
          hashLock := declaration.hashLock
          expiration := declaration.expiration
          penaltyBps := declaration.penaltyBps
          senderEvmAddr := declaration.senderEvmAddr
          scriptHash
          value }
    else .mismatched expected scriptHash

/-- The verdict on a transaction. The first output locks the funds, the second one declares the
terms. -/
def judgeDeposit (detector : Detector) (tx : Transaction) : DepositVerdict :=
  match tx.outputs with
  | locked :: declaring :: _ =>
    match Script.lockedHash? locked.script, Declaration.ofScript? detector.tag declaring.script with
    | some scriptHash, some declaration =>
      detector.judgeDeclared tx.txid locked.value scriptHash declaration
    | _, _ => .unrelated
  | _ => .unrelated

def deposit? (detector : Detector) (tx : Transaction) : Option Deposit :=
  match detector.judgeDeposit tx with
  | .accepted record => some record
  | _ => none

/-- The input that can spend a covenant: the first of one or two. A second one pays the fee. -/
def spendingInput? (tx : Transaction) : Option TxInput :=
  match tx.inputs with
  | [input] => some input
  | [input, _] => some input
  | _ => none

def receipt? (detector : Detector) (tx : Transaction) : Option Receipt := do
  let input ← spendingInput? tx
  let secret ← Spend.secret? input.script detector.version.bytecode
  return ⟨input.outpoint.txid, tx.txid, secret⟩

def refund? (detector : Detector) (tx : Transaction) : Option Refund := do
  let input ← spendingInput? tx
  if Spend.isReclaim input.script detector.version.bytecode then
    return ⟨input.outpoint.txid, tx.txid⟩
  else none

end Detector

end SwapWatch
