import SwapWatch.Proofs.Detection.Agreement
import SwapWatch.Proofs.Detection.Parts

/-!
# What a deposit is

A relation says which transactions are deposits for a detector and what is recorded of them, in
terms of the operations in their outputs and of the oracle alone. Detection finds exactly these.
-/

set_option autoImplicit false

namespace SwapWatch

open Script (Op)

/-- The first output is locked to a script hash, the second one pushes the parts of a declaration,
and for the declared terms the oracle gives this hash. -/
inductive MakesDeposit (detector : Detector) (tx : Transaction) : Deposit → Prop where
  | commits {locked declaring : TxOutput} {more : List TxOutput} {hash : Bytes} {ops : List Op}
      {parts : Declaration.Parts} :
      tx.outputs = locked :: declaring :: more →
      hash.length = 20 → locked.script = 0xa9 :: 0x14 :: hash ++ [0x87] →
      (∀ op ∈ ops, op.WellFormed) → declaring.script = Script.encode (.plain 0x6a :: ops) →
      ops.filterMap Op.data? = parts.pushes detector.tag →
      detector.oracle
        { senderPkh := parts.senderPkh
          recipientPkh := parts.recipientPkh
          hashLock := parts.hashLock
          expiration := Endian.toNatBig parts.expiration
          penaltyBps := Endian.toNatBig parts.penaltyBps } = .ok hash →
      MakesDeposit detector tx
        { txHash := tx.txid
          recipientPkh := parts.recipientPkh
          senderPkh := parts.senderPkh
          hashLock := parts.hashLock
          expiration := Endian.toNatBig parts.expiration
          penaltyBps := Endian.toNatBig parts.penaltyBps
          senderEvmAddr := parts.senderEvmAddr
          scriptHash := hash
          value := locked.value }

variable {detector : Detector} {tx : Transaction} {record : Deposit}

theorem MakesDeposit.found (makes : MakesDeposit detector tx record) :
    detector.deposit? tx = some record := by
  cases makes with
  | @commits locked declaring more hash ops parts outputs size lock formed carries pushes given =>
    have locks := Script.lockedHash?_eq_some_iff.mpr ⟨size, lock⟩
    have parsed : Script.parse declaring.script = .ok (.plain 0x6a :: ops) :=
      Script.parse_eq_ok_iff.mpr ⟨List.forall_mem_cons.mpr ⟨by decide, formed⟩, carries.symm⟩
    have declares := Declaration.ofScript?_eq_some_iff.mpr ⟨parts, ops, parsed, pushes, rfl⟩
    exact Detector.deposit?_eq_some.mpr
      ⟨locked, declaring, more, hash, parts.declaration, outputs, locks, declares, given, rfl⟩

theorem MakesDeposit.of_found (found : detector.deposit? tx = some record) :
    MakesDeposit detector tx record := by
  obtain ⟨locked, declaring, more, hash, declared, outputs, locks, declares, given, rfl⟩ :=
    Detector.deposit?_eq_some.mp found
  obtain ⟨size, lock⟩ := Script.lockedHash?_eq_some_iff.mp locks
  obtain ⟨parts, ops, parsed, pushes, rfl⟩ := Declaration.ofScript?_eq_some_iff.mp declares
  obtain ⟨formed, carries⟩ := Script.parse_eq_ok_iff.mp parsed
  exact .commits outputs size lock (List.forall_mem_cons.mp formed).2 carries.symm pushes given

/-- Detection finds the deposits that transactions make, with their records, and nothing in any
other transaction. -/
theorem deposit?_iff_makesDeposit (detector : Detector) (tx : Transaction) :
    (∀ record, detector.deposit? tx = some record ↔ MakesDeposit detector tx record) ∧
      (detector.deposit? tx = none ↔ ∀ record, ¬ MakesDeposit detector tx record) := by
  have iff_makes (record : Deposit) :
      detector.deposit? tx = some record ↔ MakesDeposit detector tx record :=
    ⟨MakesDeposit.of_found, MakesDeposit.found⟩
  refine ⟨iff_makes, ?_⟩
  rw [Option.eq_none_iff_forall_ne_some]
  exact forall_congr' fun record => not_congr (iff_makes record)

end SwapWatch
