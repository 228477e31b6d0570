import SwapWatch.Json.Basic
import SwapWatch.Text.Hex

/-!
# Swap events

The records of the three steps of a swap, and the fields in which they are shown.
-/

set_option autoImplicit false

namespace SwapWatch

structure Deposit where
  txHash : String
  recipientPkh : Bytes
  senderPkh : Bytes
  hashLock : Bytes
  expiration : Nat
  penaltyBps : Nat
  /-- The address of the sender on the counterpart chain. -/
  senderEvmAddr : Bytes
  scriptHash : Bytes
  /-- The value of the locked output in satoshis. -/
  value : Int
deriving DecidableEq, Repr

structure Receipt where
  prevTxHash : String
  txHash : String
  secret : String
deriving DecidableEq, Repr

structure Refund where
  prevTxHash : String
  txHash : String
deriving DecidableEq, Repr

inductive Event where
  | deposit (record : Deposit)
  | receipt (record : Receipt)
  | refund (record : Refund)
deriving DecidableEq, Repr

def Hex.marked (bytes : Bytes) : String :=
  "0x" ++ Hex.encode bytes

def Deposit.fields (record : Deposit) : List (Text.Points × Json) :=
  [("txHash", .text record.txHash),
   ("recipientPkh", .text (Hex.marked record.recipientPkh)),
   ("senderPkh", .text (Hex.marked record.senderPkh)),
   ("hashLock", .text (Hex.marked record.hashLock)),
   ("expiration", .int record.expiration),
   ("penaltyBps", .int record.penaltyBps),
   ("senderEvmAddr", .text (Hex.marked record.senderEvmAddr)),
   ("scriptHash", .text (Hex.marked record.scriptHash)),
   ("value", .int record.value)]

def Receipt.fields (record : Receipt) : List (Text.Points × Json) :=
  [("prevTxHash", .text record.prevTxHash),
   ("txHash", .text record.txHash),
   ("secret", .text record.secret)]

def Refund.fields (record : Refund) : List (Text.Points × Json) :=
  [("prevTxHash", .text record.prevTxHash),
   ("txHash", .text record.txHash)]

namespace Event

def kind : Event → String
  | deposit _ => "deposit"
  | receipt _ => "receipt"
  | refund _ => "refund"

/-- The id of the transaction in which the event was found. -/
def txHash : Event → String
  | deposit record => record.txHash
  | receipt record => record.txHash
  | refund record => record.txHash

def fields : Event → List (Text.Points × Json)
  | deposit record => record.fields
  | receipt record => record.fields
  | refund record => record.fields

end Event

def Json.ofHeight : Option Int → Json
  | some height => .int height
  | none => .null

def Event.json (event : Event) (height : Option Int) : Json :=
  .record (("type", .text event.kind) :: ("height", .ofHeight height) :: event.fields)

end SwapWatch
