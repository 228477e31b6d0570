import SwapWatch.Hash
import SwapWatch.Text.Hex
import SwapWatch.Wire.Field

/-!
# Transactions

A transaction spends outputs of earlier ones, which it names by their ids.
-/

set_option autoImplicit false

/-!
## Transaction ids

An id is shown as hexadecimal text with its last byte first.
-/

namespace SwapWatch.TxId

inductive Error where
  | hex (flaw : Hex.Flaw)
  | size (bytes : Nat)
deriving DecidableEq, Repr

def Error.message : Error → String
  | hex flaw => flaw.message
  | size bytes => s!"txid must be 32 bytes, got {bytes}"

def display (id : Bytes) : String :=
  Hex.encodeReversed id

def ofDisplay (text : String) : Except Error Bytes :=
  match Hex.decode text with
  | .error flaw => .error (.hex flaw)
  | .ok bytes => if bytes.length = 32 then .ok bytes.reverse else .error (.size bytes.length)

end SwapWatch.TxId

/-!
## Transactions

Number fields are integers of any size here. Whether they fit is decided when a transaction is
written; one that was read always fits.
-/

namespace SwapWatch

structure Outpoint where
  /-- The id of the earlier transaction, in the order of the wire. -/
  txHash : Bytes
  index : Int
deriving DecidableEq, Repr

def Outpoint.txid (outpoint : Outpoint) : String :=
  TxId.display outpoint.txHash

structure TxInput where
  outpoint : Outpoint
  script : Bytes
  sequence : Int := 0xffffffff
deriving DecidableEq, Repr

/-- An output of a transaction, with its value in satoshis. -/
structure TxOutput where
  value : Int
  script : Bytes
deriving DecidableEq, Repr

structure TxBody where
  version : Int
  inputs : List TxInput
  outputs : List TxOutput
  lockTime : Int := 0
deriving DecidableEq, Repr

/-- A transaction together with its id as it is shown. -/
structure Transaction extends TxBody where
  txid : String
deriving DecidableEq, Repr

/-!
## Wire format

Version, counted inputs, counted outputs and lock time, all numbers lowest byte first. The id of a
transaction is the digest of the bytes that it was read from, so two spellings of one body have
different ids.
-/

open Wire

def TxInput.encode (input : TxInput) : Except RangeError Bytes := do
  let index ← unsigned 4 input.outpoint.index
  let script ← sized input.script
  let sequence ← unsigned 4 input.sequence
  return input.outpoint.txHash ++ index ++ script ++ sequence

def TxInput.read : Reader TxInput := do
  let txHash ← Reader.take 32
  let index ← Reader.number 4
  let script ← readSized
  let sequence ← Reader.number 4
  return ⟨⟨txHash, index⟩, script, sequence⟩

def TxOutput.encode (output : TxOutput) : Except RangeError Bytes := do
  let value ← unsigned 8 output.value
  let script ← sized output.script
  return value ++ script

def TxOutput.read : Reader TxOutput := do
  let value ← Reader.number 8
  let script ← readSized
  return ⟨value, script⟩

/-- The bytes of a transaction. The first field that does not fit is reported. -/
def TxBody.encode (body : TxBody) : Except RangeError Bytes := do
  let version ← signed 4 body.version
  let inputs ← counted TxInput.encode body.inputs
  let outputs ← counted TxOutput.encode body.outputs
  let lockTime ← unsigned 4 body.lockTime
  return version ++ inputs ++ outputs ++ lockTime

def TxBody.read : Reader TxBody := do
  let version ← Reader.integer 4
  let inputs ← readCounted TxInput.read
  let outputs ← readCounted TxOutput.read
  let lockTime ← Reader.number 4
  return ⟨version, inputs, outputs, lockTime⟩

namespace Transaction

def idOf (raw : Bytes) : String :=
  TxId.display (Hash.doubleSha256 raw)

def read : Reader Transaction := do
  let (body, raw) ← TxBody.read.withBytes
  return ⟨body, idOf raw⟩

/-- The transaction at an offset, and the offset after it. -/
def readAt (data : Bytes) (offset : Nat) : Except DecodeError (Transaction × Nat) :=
  read.runAt data offset

def ofBytes (data : Bytes) : Except DecodeError Transaction :=
  read.runAll .transaction data

def ofHex (text : String) : Except DecodeError Transaction :=
  read.runHex .transaction text

end Transaction

end SwapWatch
