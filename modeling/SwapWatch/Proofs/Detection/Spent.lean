import SwapWatch.Proofs.Covenant.Redeem
import SwapWatch.Proofs.Detection.Agreement
import SwapWatch.Proofs.Wire.Reader
import SwapWatch.Transaction

/-!
# Spent deposits

The scripts that spend a covenant output, by the secret or after expiry, are recognised under the
bytecode of the covenant in whatever form their last push is written, and under another bytecode
exactly where this ends the script. The id in the record is the one under which the deposit itself
is shown.
-/

set_option autoImplicit false

namespace SwapWatch

open Script (Op PushForm)

/-- The id of a transaction is the digest of all the bytes that it was read from. -/
theorem Transaction.txid_of_ofBytes {raw : Bytes} {tx : Transaction} (read : ofBytes raw = .ok tx) :
    tx.txid = idOf raw := by
  obtain ⟨rest, found, all⟩ := Wire.Reader.runAll_eq_ok_iff.mp read
  obtain ⟨⟨body, bytes⟩, middle, cut, made⟩ := Wire.Reader.bind_eq_ok_iff.mp found
  cases made
  obtain ⟨-, rfl⟩ := Wire.Reader.withBytes_eq_ok_iff.mp cut
  rw [all, List.take_length]

namespace Covenant

variable {covenant : Covenant} {terms : Terms} {redeem : Bytes}

theorem bytecode_suffix_redeemScript (built : covenant.redeemScript terms = .ok redeem) :
    covenant.version.bytecode <:+ redeem := by
  obtain ⟨-, rfl⟩ := redeemScript_eq_ok_iff.mp built
  exact List.suffix_append _ _

theorem two_le_length_redeemScript (built : covenant.redeemScript terms = .ok redeem) :
    2 ≤ redeem.length := by
  obtain ⟨-, rfl⟩ := redeemScript_eq_ok_iff.mp built
  have sender := Script.length_pushData_pos terms.senderPkh
  have recipient := Script.length_pushData_pos terms.recipientPkh
  simp only [termPushes, List.length_append]
  omega

end Covenant

namespace Spend

def claimScript (secret redeem : Bytes) : Bytes :=
  Script.pushData secret ++ [0x00] ++ Script.pushData redeem

def reclaimScript (redeem : Bytes) : Bytes :=
  [0x51] ++ Script.pushData redeem

section Shapes

variable {secret redeem bytecode : Bytes} (more : 2 ≤ redeem.length)
  (short : redeem.length < 4294967296)

include more short

theorem parse_claimScript (size : secret.length = 32) :
    Script.parse (claimScript secret redeem) =
      .ok [.push .direct secret, .push .direct [], .push (.narrowest redeem.length) redeem] := by
  have secretOp : Op.pushing secret = .push .direct secret := by
    rw [Op.pushing_of_two_le (by omega), PushForm.narrowest_of_le (by omega)]
  have front : Script.pushData secret ++ [0x00] =
      Script.encode [.push .direct secret, .push .direct []] := by
    rw [Script.pushData, secretOp, Script.encode_cons]
    rfl
  have room : secret.length ≤ 75 := by omega
  have formed : ∀ op ∈ [Op.push .direct secret, .push .direct []], op.WellFormed := by
    simp only [List.forall_mem_cons]
    exact ⟨room, Nat.zero_le _, by simp⟩
  rw [claimScript, front]
  exact Script.parse_append_pushData formed more short

theorem parse_reclaimScript :
    Script.parse (reclaimScript redeem) =
      .ok [.plain 0x51, .push (.narrowest redeem.length) redeem] := by
  have formed : ∀ op ∈ [Op.plain 0x51], op.WellFormed := by decide
  exact Script.parse_append_pushData formed more short

theorem secret?_claimScript (size : secret.length = 32) {shown : String} :
    secret? (claimScript secret redeem) bytecode = some shown ↔
      (bytecode ≠ [] ∧ bytecode <:+ claimScript secret redeem) ∧ shown = Hex.encode secret := by
  have parsed := parse_claimScript more short size
  rw [secret?_eq_some_iff, Script.endsWith_iff]
  constructor
  · rintro ⟨ends, ops, bytes, selector, last, parsed', pushes, -, rfl⟩
    obtain rfl := Except.ok.inj (parsed.symm.trans parsed')
    cases pushes
    exact ⟨ends, rfl⟩
  · rintro ⟨ends, rfl⟩
    exact ⟨ends, _, secret, [], redeem, parsed, rfl, size, rfl⟩

theorem isReclaim_reclaimScript :
    isReclaim (reclaimScript redeem) bytecode = true ↔
      bytecode ≠ [] ∧ bytecode <:+ reclaimScript redeem := by
  rw [isReclaim_iff, Script.endsWith_iff]
  constructor
  · rintro ⟨ends, -⟩
    exact ends
  · intro ends
    exact ⟨ends, _, parse_reclaimScript more short⟩

theorem suffix_claimScript (size : secret.length = 32) : redeem <:+ claimScript secret redeem :=
  Script.suffix_of_parse [.push .direct secret, .push .direct []]
    (parse_claimScript more short size)

theorem suffix_reclaimScript : redeem <:+ reclaimScript redeem :=
  Script.suffix_of_parse [.plain 0x51] (parse_reclaimScript more short)

end Shapes

end Spend

/-- One or two inputs, of which the first spends an output of the transaction with this hash and has
this script. -/
def Transaction.Spends (tx : Transaction) (txHash script : Bytes) : Prop :=
  ∃ input others, tx.inputs = input :: others ∧ others.length ≤ 1 ∧
    input.outpoint.txHash = txHash ∧ input.script = script

/-- The detectors whose bytecode ends the script find this record and no other ones find any; the
detectors of the covenant find it. -/
def Covenant.FoundIn {ρ : Type} (covenant : Covenant) (script : Bytes)
    (search : Detector → Option ρ) (record : ρ) : Prop :=
  (∀ detector : Detector, detector.version.bytecode = covenant.version.bytecode →
    search detector = some record) ∧
  ∀ (detector : Detector) (found : ρ), search detector = some found ↔
    (detector.version.bytecode ≠ [] ∧ detector.version.bytecode <:+ script) ∧ found = record

theorem Covenant.foundIn_of_iff {ρ : Type} {covenant : Covenant} {script : Bytes}
    {search : Detector → Option ρ} {record : ρ} (ends : covenant.version.bytecode <:+ script)
    (each : ∀ (detector : Detector) (found : ρ), search detector = some found ↔
      (detector.version.bytecode ≠ [] ∧ detector.version.bytecode <:+ script) ∧ found = record) :
    covenant.FoundIn script search record := by
  refine ⟨?_, each⟩
  intro detector own
  rw [each, own]
  exact ⟨⟨covenant.bytecode_ne_nil, ends⟩, rfl⟩

namespace Detector

variable {detector : Detector} {tx : Transaction}

theorem undetected_of_inputs (one : tx.inputs.length ≠ 1) (two : tx.inputs.length ≠ 2) :
    detector.receipt? tx = none ∧ detector.refund? tx = none := by
  have noInput : spendingInput? tx = none := by
    rw [Option.eq_none_iff_forall_ne_some]
    intro input spending
    obtain ⟨others, inputs, few⟩ := spendingInput?_eq_some.mp spending
    rw [inputs, List.length_cons] at one two
    omega
  constructor
  · rw [receipt?, noInput]
    rfl
  · rw [refund?, noInput]
    rfl

end Detector

section Linked

variable {raw : Bytes} {deposit tx : Transaction} {script : Bytes}

/-- The spending input refers to the deposit by the id under which the deposit is shown. -/
theorem Transaction.Spends.input (read : Transaction.ofBytes raw = .ok deposit)
    (spends : tx.Spends (Hash.doubleSha256 raw) script) :
    ∃ input, Detector.spendingInput? tx = some input ∧ input.outpoint.txid = deposit.txid ∧
      input.script = script := by
  obtain ⟨input, others, inputs, few, hash, shape⟩ := spends
  refine ⟨input, Detector.spendingInput?_eq_some.mpr ⟨others, inputs, few⟩, ?_, shape⟩
  rw [Transaction.txid_of_ofBytes read, Outpoint.txid, hash]
  rfl

namespace Covenant

variable {covenant : Covenant} {terms : Terms} {redeem secret : Bytes}
  (built : covenant.redeemScript terms = .ok redeem) (short : redeem.length < 4294967296)
  (read : Transaction.ofBytes raw = .ok deposit)

include built short read

theorem claim_found (size : secret.length = 32)
    (spends : tx.Spends (Hash.doubleSha256 raw) (Spend.claimScript secret redeem)) :
    covenant.FoundIn (Spend.claimScript secret redeem) (·.receipt? tx)
      ⟨deposit.txid, tx.txid, Hex.encode secret⟩ := by
  have more : 2 ≤ redeem.length := two_le_length_redeemScript built
  obtain ⟨input, spending, linked, shape⟩ := spends.input read
  apply foundIn_of_iff
  · exact (bytecode_suffix_redeemScript built).trans (Spend.suffix_claimScript more short size)
  · intro detector found
    rw [Detector.receipt?_eq_some]
    constructor
    · rintro ⟨input', shown, spending', revealed, rfl⟩
      obtain rfl : input = input' := Option.some.inj (spending.symm.trans spending')
      rw [shape, Spend.secret?_claimScript more short size] at revealed
      obtain ⟨ends, rfl⟩ := revealed
      exact ⟨ends, by rw [linked]⟩
    · rintro ⟨ends, rfl⟩
      refine ⟨input, Hex.encode secret, spending, ?_, by rw [linked]⟩
      rw [shape, Spend.secret?_claimScript more short size]
      exact ⟨ends, rfl⟩

theorem reclaim_found
    (spends : tx.Spends (Hash.doubleSha256 raw) (Spend.reclaimScript redeem)) :
    covenant.FoundIn (Spend.reclaimScript redeem) (·.refund? tx) ⟨deposit.txid, tx.txid⟩ := by
  have more : 2 ≤ redeem.length := two_le_length_redeemScript built
  obtain ⟨input, spending, linked, shape⟩ := spends.input read
  apply foundIn_of_iff
  · exact (bytecode_suffix_redeemScript built).trans (Spend.suffix_reclaimScript more short)
  · intro detector found
    rw [Detector.refund?_eq_some]
    constructor
    · rintro ⟨input', spending', reclaims, rfl⟩
      obtain rfl : input = input' := Option.some.inj (spending.symm.trans spending')
      rw [shape, Spend.isReclaim_reclaimScript more short] at reclaims
      exact ⟨reclaims, by rw [linked]⟩
    · rintro ⟨ends, rfl⟩
      refine ⟨input, spending, ?_, by rw [linked]⟩
      rw [shape, Spend.isReclaim_reclaimScript more short]
      exact ends

end Covenant

end Linked

/-- A spend of a deposit by the secret is a receipt, one after expiry is a refund, both refer to the
deposit by its id, and neither is also the other. Transactions with other numbers of inputs are
neither. -/
theorem spends_recognised_and_linked (covenant : Covenant) (terms : Terms)
    (accepted : terms.check = .ok ()) :
    ∃ redeem, covenant.redeemScript terms = .ok redeem ∧
      (redeem.length < 4294967296 → ∀ (secret raw : Bytes) (deposit tx : Transaction),
        secret.length = 32 → Transaction.ofBytes raw = .ok deposit →
          (tx.Spends (Hash.doubleSha256 raw) (Spend.claimScript secret redeem) →
            covenant.FoundIn (Spend.claimScript secret redeem) (·.receipt? tx)
                ⟨deposit.txid, tx.txid, Hex.encode secret⟩ ∧
              ∀ detector : Detector, detector.refund? tx = none) ∧
          (tx.Spends (Hash.doubleSha256 raw) (Spend.reclaimScript redeem) →
            covenant.FoundIn (Spend.reclaimScript redeem) (·.refund? tx)
                ⟨deposit.txid, tx.txid⟩ ∧
              ∀ detector : Detector, detector.receipt? tx = none)) ∧
      ∀ (tx : Transaction) (detector : Detector), tx.inputs.length ≠ 1 → tx.inputs.length ≠ 2 →
        detector.receipt? tx = none ∧ detector.refund? tx = none := by
  have built : covenant.redeemScript terms =
      .ok (Covenant.termPushes terms ++ covenant.version.bytecode) :=
    Covenant.redeemScript_eq_ok_iff.mpr ⟨accepted, rfl⟩
  generalize Covenant.termPushes terms ++ covenant.version.bytecode = redeem at built
  refine ⟨redeem, built, ?_, ?_⟩
  · intro short secret raw deposit tx size read
    constructor
    · intro spends
      have found := Covenant.claim_found built short read size spends
      have own := found.1 (.ofCovenant covenant []) rfl
      exact ⟨found, fun detector => Detector.refund?_of_receipt? own⟩
    · intro spends
      have found := Covenant.reclaim_found built short read spends
      have own := found.1 (.ofCovenant covenant []) rfl
      exact ⟨found, fun detector => Detector.receipt?_of_refund? own⟩
  · intro tx detector one two
    exact Detector.undetected_of_inputs one two

/-- The spends of a deposit are also found under a bytecode that ends the one of its covenant. -/
theorem spends_found_by_suffix :
    let covenant : Covenant := ⟨⟨"long", [0x63, 0xac]⟩, by decide⟩
    let terms : Terms := ⟨List.replicate 20 1, List.replicate 20 2, List.replicate 32 3, 1, 0⟩
    let secret : Bytes := List.replicate 32 7
    let raw : Bytes := List.replicate 10 0
    ∃ redeem deposit, covenant.redeemScript terms = .ok redeem ∧
      Transaction.ofBytes raw = .ok deposit ∧
      ∀ (tx : Transaction) (detector : Detector), detector.version.bytecode = [0xac] →
        (tx.inputs = [⟨⟨Hash.doubleSha256 raw, 0⟩, Spend.claimScript secret redeem, 0⟩] →
          detector.receipt? tx = some ⟨deposit.txid, tx.txid, Hex.encode secret⟩) ∧
        (tx.inputs = [⟨⟨Hash.doubleSha256 raw, 0⟩, Spend.reclaimScript redeem, 0⟩] →
          detector.refund? tx = some ⟨deposit.txid, tx.txid⟩) := by
  intro covenant terms secret raw
  obtain ⟨redeem, built, linked, -⟩ := spends_recognised_and_linked covenant terms rfl
  have penalty : Script.Number.encode 0 = [] := by
    simp [Script.Number.encode, Script.Number.magnitude, Script.Number.withSign]
  have expiration : Script.Number.encode 1 = [1] := by
    simp [Script.Number.encode, Script.Number.magnitude, Script.Number.withSign]
  have written : redeem = 0x00 :: 0x51 :: 0x20 :: (terms.hashLock ++ 0x14 :: terms.recipientPkh ++
      0x14 :: terms.senderPkh ++ [0x63, 0xac]) := by
    rw [(Covenant.redeemScript_eq_ok_iff.mp built).2, Covenant.termPushes, Script.pushNumber,
      Script.pushNumber, penalty, expiration]
    rfl
  have read : ∃ deposit, Transaction.ofBytes raw = .ok deposit := ⟨_, rfl⟩
  obtain ⟨deposit, read⟩ := read
  refine ⟨redeem, deposit, built, read, ?_⟩
  subst written
  intro tx detector bytecode
  obtain ⟨claimed, reclaimed⟩ := linked (by decide) secret raw deposit tx rfl read
  constructor
  · intro inputs
    obtain ⟨⟨-, found⟩, -⟩ := claimed ⟨_, [], inputs, Nat.zero_le 1, rfl, rfl⟩
    rw [found, bytecode]
    exact ⟨by decide, rfl⟩
  · intro inputs
    obtain ⟨⟨-, found⟩, -⟩ := reclaimed ⟨_, [], inputs, Nat.zero_le 1, rfl, rfl⟩
    rw [found, bytecode]
    exact ⟨by decide, rfl⟩

end SwapWatch
