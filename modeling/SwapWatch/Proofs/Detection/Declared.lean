import SwapWatch.Detection.Detector
import SwapWatch.Proofs.Covenant.Redeem
import SwapWatch.Proofs.Script.Template

/-!
# Declared deposits

A deposit is reported exactly when the locked output commits to the terms that are declared beside
it and to the version of the detector. The commitment is a hash, so this rests on the two redeem
scripts not colliding; that they differ is shown for all terms and all bytecodes.
-/

set_option autoImplicit false

namespace SwapWatch

open Script (Op)

namespace Declaration

structure Fits (declaration : Declaration) : Prop where
  recipientPkh : declaration.recipientPkh.length = 20
  senderPkh : declaration.senderPkh.length = 20
  hashLock : declaration.hashLock.length = 32
  expiration : declaration.expiration < 65536
  penaltyBps : declaration.penaltyBps < 65536
  senderEvmAddr : declaration.senderEvmAddr.length = 20

def pushes (tag : Bytes) (declaration : Declaration) : List Bytes :=
  [tag, declaration.recipientPkh, declaration.senderPkh, declaration.hashLock,
   (Endian.ofNat 2 declaration.expiration).reverse, (Endian.ofNat 2 declaration.penaltyBps).reverse,
   declaration.senderEvmAddr]

/-- The script of the output that declares the terms of a deposit. -/
def script (tag : Bytes) (declaration : Declaration) : Bytes :=
  Script.encode (.plain 0x6a :: (declaration.pushes tag).map (.push .direct))

theorem toNatBig_ofNat {value : Nat} (small : value < 65536) :
    Endian.toNatBig (Endian.ofNat 2 value).reverse = value := by
  rw [Endian.toNatBig, List.reverse_reverse, Endian.toNat_ofNat]
  exact Nat.mod_eq_of_lt small

theorem ofPushes?_pushes (tag : Bytes) {declaration : Declaration} (fits : declaration.Fits) :
    ofPushes? tag (declaration.pushes tag) = some declaration := by
  simp only [pushes, ofPushes?, toNatBig_ofNat fits.expiration, toNatBig_ofNat fits.penaltyBps]
  rw [if_pos]
  simp [fits.recipientPkh, fits.senderPkh, fits.hashLock, fits.senderEvmAddr]

theorem ofScript?_script {tag : Bytes} (short : tag.length ≤ 75) {declaration : Declaration}
    (fits : declaration.Fits) : ofScript? tag (declaration.script tag) = some declaration := by
  have formed : ∀ op ∈ (declaration.pushes tag).map (Op.push .direct), op.WellFormed := by
    simp [pushes, Op.WellFormed, Script.PushForm.Admits, short, fits.recipientPkh, fits.senderPkh,
      fits.hashLock, fits.senderEvmAddr]
  have data : ((declaration.pushes tag).map (Op.push .direct)).filterMap Op.data? =
      declaration.pushes tag := by
    rw [List.filterMap_map]
    exact List.filterMap_some
  rw [ofScript?, script, Script.carriedData?_encode formed, data]
  exact ofPushes?_pushes tag fits

end Declaration

/-- The record of a deposit that commits to the given terms. -/
def Terms.deposit (terms : Terms) (txid : String) (senderEvmAddr scriptHash : Bytes)
    (value : Int) : Deposit where
  txHash := txid
  recipientPkh := terms.recipientPkh
  senderPkh := terms.senderPkh
  hashLock := terms.hashLock
  expiration := terms.expiration.toNat
  penaltyBps := terms.penaltyBps.toNat
  senderEvmAddr
  scriptHash
  value

namespace Covenant

theorem redeemHash_of_redeemScript {covenant : Covenant} {terms : Terms} {script : Bytes}
    (built : covenant.redeemScript terms = .ok script) :
    covenant.redeemHash terms = .ok (Hash.hash160 script) := by
  rw [redeemHash, built]
  rfl

theorem redeemHash_of_rejected {covenant : Covenant} {terms : Terms} {failure : CovenantError}
    (rejected : covenant.redeemScript terms = .error failure) :
    covenant.redeemHash terms = .error failure := by
  rw [redeemHash, rejected]
  rfl

end Covenant

namespace Detector

theorem deposit?_eq_some_iff {detector : Detector} {tx : Transaction} {record : Deposit} :
    detector.deposit? tx = some record ↔ detector.judgeDeposit tx = .accepted record := by
  unfold deposit?
  cases detector.judgeDeposit tx with
  | accepted found => simp
  | unrelated => simp
  | rejected error => simp
  | mismatched expected actual => simp

theorem judgeDeposit_declared {detector : Detector} {tag : Bytes} (tagged : detector.tag = tag)
    (short : tag.length ≤ 75) {hash : Bytes} (size : hash.length = 20) {declared : Declaration}
    (fits : declared.Fits) (tx : Transaction) (value other : Int) (more : List TxOutput) :
    detector.judgeDeposit { tx with
        outputs := ⟨value, Script.lockToHash hash⟩ :: ⟨other, declared.script tag⟩ :: more } =
      detector.judgeDeclared tx.txid value hash declared := by
  simp only [judgeDeposit, Script.lockedHash?_lockToHash size, tagged,
    Declaration.ofScript?_script short fits]

/-- A detector accepts declared terms exactly when the locked output commits to them and to the
version of the detector. -/
theorem judgeDeclared_eq_accepted_iff {covenant covenant' : Covenant} {terms : Terms}
    {declared : Declaration} {tag script : Bytes}
    (built : covenant.redeemScript terms = .ok script)
    (distinct : ∀ script', covenant'.redeemScript declared.terms = .ok script' →
      Hash.hash160 script = Hash.hash160 script' → script = script')
    (txid : String) (value : Int) {record : Deposit} :
    (ofCovenant covenant' tag).judgeDeclared txid value (Hash.hash160 script) declared =
        .accepted record ↔
      (terms = declared.terms ∧ covenant.version.bytecode = covenant'.version.bytecode) ∧
        record = terms.deposit txid declared.senderEvmAddr (Hash.hash160 script) value := by
  constructor
  · intro accepted
    unfold judgeDeclared ofCovenant at accepted
    cases built' : covenant'.redeemScript declared.terms with
    | error failure =>
      simp [Covenant.redeemHash_of_rejected built'] at accepted
    | ok script' =>
      simp only [Covenant.redeemHash_of_redeemScript built'] at accepted
      split at accepted
      · next committed =>
        have same : script = script' := distinct script' built' committed.symm
        subst same
        obtain ⟨rfl, bytecodes⟩ := Covenant.redeemScript_inj built built'
        cases accepted
        exact ⟨⟨rfl, bytecodes⟩, rfl⟩
      · cases accepted
  · rintro ⟨⟨rfl, bytecodes⟩, rfl⟩
    have built' : covenant'.redeemScript declared.terms = .ok script := by
      rw [Covenant.redeemScript_eq_ok_iff] at built ⊢
      rw [← bytecodes]
      exact built
    simp only [judgeDeclared, ofCovenant, Covenant.redeemHash_of_redeemScript built', if_true]
    rfl

end Detector

/-- A canonical deposit is reported exactly when the locked output commits to the declared terms
and to the version of the detector. The record then has the terms, the address, the script hash and
the value of the locked output. -/
theorem deposit?_declared_iff (covenant covenant' : Covenant) (terms : Terms)
    (declared : Declaration) (tag : Bytes) (accepted : terms.check = .ok ())
    (fits : declared.Fits) (tagged : tag.length = 4)
    (distinct : ∀ script script', covenant.redeemScript terms = .ok script →
      covenant'.redeemScript declared.terms = .ok script' →
      Hash.hash160 script = Hash.hash160 script' → script = script') :
    ∃ script locking, covenant.redeemScript terms = .ok script ∧
      covenant.lockingScript terms = .ok locking ∧
      ∀ (tx : Transaction) (value other : Int) (more : List TxOutput) (record : Deposit),
        (Detector.ofCovenant covenant' tag).deposit? { tx with
            outputs := ⟨value, locking⟩ :: ⟨other, declared.script tag⟩ :: more } = some record ↔
          (terms = declared.terms ∧ covenant.version.bytecode = covenant'.version.bytecode) ∧
            record = terms.deposit tx.txid declared.senderEvmAddr (Hash.hash160 script) value := by
  have built : covenant.redeemScript terms =
      .ok (Covenant.termPushes terms ++ covenant.version.bytecode) :=
    Covenant.redeemScript_eq_ok_iff.mpr ⟨accepted, rfl⟩
  generalize Covenant.termPushes terms ++ covenant.version.bytecode = script at built
  refine ⟨script, Script.lockToHash (Hash.hash160 script), built, ?_, ?_⟩
  · rw [Covenant.lockingScript, Covenant.redeemHash_of_redeemScript built]
    rfl
  · intro tx value other more record
    have sameTag : (Detector.ofCovenant covenant' tag).tag = tag := rfl
    rw [Detector.deposit?_eq_some_iff, Detector.judgeDeposit_declared sameTag (by omega)
      (Hash.length_hash160 script) fits tx value other more]
    exact Detector.judgeDeclared_eq_accepted_iff built
      (fun script' built' => distinct script script' built built') tx.txid value

theorem deposit?_declared_same :
    let covenant : Covenant := ⟨⟨"v1", [0xac]⟩, by decide⟩
    let declared : Declaration := ⟨List.replicate 20 2, List.replicate 20 1, List.replicate 32 3,
      100, 50, List.replicate 20 4⟩
    ∃ script locking, covenant.redeemScript declared.terms = .ok script ∧
      covenant.lockingScript declared.terms = .ok locking ∧
      ∀ tx : Transaction,
        (Detector.ofCovenant covenant Declaration.standardTag).deposit? { tx with
            outputs := [⟨1000, locking⟩, ⟨0, declared.script Declaration.standardTag⟩] } =
          some (declared.terms.deposit tx.txid declared.senderEvmAddr (Hash.hash160 script)
            1000) := by
  intro covenant declared
  have fits : declared.Fits := by constructor <;> decide
  obtain ⟨script, locking, built, locked, reported⟩ := deposit?_declared_iff covenant covenant
    declared.terms declared Declaration.standardTag rfl fits rfl
    (fun script script' built built' _ => Except.ok.inj (built.symm.trans built'))
  exact ⟨script, locking, built, locked, fun tx =>
    (reported tx 1000 0 [] _).mpr ⟨⟨rfl, rfl⟩, rfl⟩⟩

end SwapWatch
