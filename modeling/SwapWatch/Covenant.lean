import SwapWatch.Bytes
import SwapWatch.Hash
import SwapWatch.Script.Push
import SwapWatch.Script.Tokens
import SwapWatch.Text.Hex
import SwapWatch.Text.Quoted

/-!
# Covenants

A covenant is a version that can be instantiated with the terms of a swap. An output is locked to an
instance by the hash of its redeem script.
-/

set_option autoImplicit false

/-!
## Versions

A version is the compiled bytecode of a covenant under a label. Every script that spends an output
of this version ends with the bytecode.
-/

namespace SwapWatch

structure Version where
  name : String
  bytecode : Bytes
deriving DecidableEq, Repr

/-- The version whose bytecode a text writes. Blanks around the text and one mark in front of it are
dropped. -/
def Version.ofHex (name text : String) : Except Hex.Flaw Version := do
  return ⟨name, ← Hex.decode (Hex.dropMark (Text.trim text))⟩

/-!
## Terms of a swap

The terms are the arguments with which a covenant is instantiated. They are checked field by field,
and the first field that does not fit is reported.
-/

structure Terms where
  /-- The key hash of the party that locks the funds, twenty bytes. -/
  senderPkh : Bytes
  /-- The key hash of the party that may claim the funds, twenty bytes. -/
  recipientPkh : Bytes
  /-- The SHA-256 of the secret, thirty-two bytes. -/
  hashLock : Bytes
  expiration : Int
  /-- The penalty in hundredths of a percent. -/
  penaltyBps : Int
deriving DecidableEq, Repr

inductive CovenantError where
  | senderSize (size : Nat)
  | recipientSize (size : Nat)
  | hashLockSize (size : Nat)
  | expirationRange (value : Int)
  | penaltyRange (value : Int)
  | emptyBytecode (name : String)
  /-- Another source of script hashes refuses the terms for a reason of its own. -/
  | refused (reason : String)
deriving DecidableEq, Repr

def CovenantError.message : CovenantError → String
  | senderSize size => s!"sender_pkh must be 20 bytes, got {size}"
  | recipientSize size => s!"recipient_pkh must be 20 bytes, got {size}"
  | hashLockSize size => s!"hash_lock must be 32 bytes, got {size}"
  | expirationRange value => s!"expiration out of range: {value}"
  | penaltyRange value => s!"penalty_bps out of range: {value}"
  | emptyBytecode name =>
    let shown := Text.quoted name
    s!"Covenant version {shown} has empty bytecode"
  | refused reason => reason

def Terms.check (terms : Terms) : Except CovenantError Unit :=
  if terms.senderPkh.length ≠ 20 then .error (.senderSize terms.senderPkh.length)
  else if terms.recipientPkh.length ≠ 20 then .error (.recipientSize terms.recipientPkh.length)
  else if terms.hashLock.length ≠ 32 then .error (.hashLockSize terms.hashLock.length)
  else if ¬ (0 < terms.expiration ∧ terms.expiration ≤ 0xffff) then
    .error (.expirationRange terms.expiration)
  else if ¬ (0 ≤ terms.penaltyBps ∧ terms.penaltyBps ≤ 10000) then
    .error (.penaltyRange terms.penaltyBps)
  else .ok ()

/-!
## Redeem scripts

A covenant is instantiated by pushing the terms, last one first, in front of the bytecode. The
output that funds the instance commits to the hash of this redeem script.
-/

structure Covenant where
  version : Version
  bytecode_ne_nil : version.bytecode ≠ []
deriving DecidableEq, Repr

/-- Says to which script hash the output of a swap with the given terms has to commit. -/
abbrev Oracle := Terms → Except CovenantError Bytes

namespace Covenant

def ofVersion (version : Version) : Except CovenantError Covenant :=
  if nonempty : version.bytecode ≠ [] then .ok ⟨version, nonempty⟩
  else .error (.emptyBytecode version.name)

/-- The pushes of the terms, in the order of the redeem script. -/
def termPushes (terms : Terms) : Bytes :=
  Script.pushNumber terms.penaltyBps ++ Script.pushNumber terms.expiration ++
    Script.pushData terms.hashLock ++ Script.pushData terms.recipientPkh ++
    Script.pushData terms.senderPkh

def redeemScript (covenant : Covenant) (terms : Terms) : Except CovenantError Bytes := do
  terms.check
  return termPushes terms ++ covenant.version.bytecode

def redeemHash (covenant : Covenant) : Oracle := fun terms => do
  return Hash.hash160 (← covenant.redeemScript terms)

def lockingScript (covenant : Covenant) (terms : Terms) : Except CovenantError Bytes := do
  return Script.lockToHash (← covenant.redeemHash terms)

end Covenant

end SwapWatch
