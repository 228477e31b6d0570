import SwapWatch.Covenant
import SwapWatch.Proofs.Script.Push

/-!
# Redeem scripts tell swaps apart

A redeem script starts with five pushes. Since no operation starts another one, the pushes are found
in front of any bytecode, and with them the terms; what follows them is the bytecode. It does not
matter how the bytecodes of two versions overlap.
-/

set_option autoImplicit false

namespace SwapWatch

open Script (Op)

theorem Terms.check_eq_ok_iff {terms : Terms} :
    terms.check = .ok () ↔ terms.senderPkh.length = 20 ∧ terms.recipientPkh.length = 20 ∧
      terms.hashLock.length = 32 ∧ (0 < terms.expiration ∧ terms.expiration ≤ 0xffff) ∧
      (0 ≤ terms.penaltyBps ∧ terms.penaltyBps ≤ 10000) := by
  unfold check
  constructor
  · intro checked
    grind
  · rintro ⟨sender, recipient, hashLock, expiration, penalty⟩
    rw [if_neg (not_not_intro sender), if_neg (not_not_intro recipient),
      if_neg (not_not_intro hashLock), if_neg (not_not_intro expiration),
      if_neg (not_not_intro penalty)]

namespace Covenant

/-- The operations that push the terms. -/
def termOps (terms : Terms) : List Op :=
  [.pushing (Script.Number.encode terms.penaltyBps),
   .pushing (Script.Number.encode terms.expiration),
   .pushing terms.hashLock, .pushing terms.recipientPkh, .pushing terms.senderPkh]

theorem termPushes_eq_encode (terms : Terms) :
    termPushes terms = Script.encode (termOps terms) := by
  simp [termPushes, termOps, Script.encode, Script.pushNumber, Script.pushData]

theorem termOps_wellFormed {terms : Terms} (checked : terms.check = .ok ()) :
    ∀ op ∈ termOps terms, op.WellFormed := by
  obtain ⟨sender, recipient, hashLock, expiration, penalty⟩ := Terms.check_eq_ok_iff.mp checked
  have numberFits {value : Int} (range : 0 ≤ value ∧ value ≤ 0xffff) :
      (Script.Number.encode value).length < 4294967296 := by
    have twoBytes : value.natAbs < 65536 := by omega
    exact Nat.lt_of_le_of_lt (Script.Number.length_encode_le 2 twoBytes) (by decide)
  simp only [termOps, List.forall_mem_cons]
  refine ⟨?_, ?_, ?_, ?_, ?_, by simp⟩ <;> apply Op.pushing_wellFormed
  · exact numberFits ⟨penalty.1, by omega⟩
  · exact numberFits ⟨by omega, expiration.2⟩
  · omega
  · omega
  · omega

theorem termOps_injective : Function.Injective termOps := by
  intro terms terms' same
  simp only [termOps, List.cons.injEq, Op.pushing_injective.eq_iff,
    Script.Number.encode_injective.eq_iff, and_true] at same
  obtain ⟨penalty, expiration, hashLock, recipient, sender⟩ := same
  cases terms
  cases terms'
  simp_all

theorem redeemScript_eq_ok_iff {covenant : Covenant} {terms : Terms} {script : Bytes} :
    covenant.redeemScript terms = .ok script ↔
      terms.check = .ok () ∧ script = termPushes terms ++ covenant.version.bytecode := by
  unfold redeemScript
  cases terms.check with
  | error failure => simp [bind, Except.bind]
  | ok => simp [bind, Except.bind, pure, Except.pure, eq_comm]

/-- The redeem scripts of two swaps differ if the terms do or the bytecodes. -/
theorem redeemScript_inj {covenant covenant' : Covenant} {terms terms' : Terms} {script : Bytes}
    (built : covenant.redeemScript terms = .ok script)
    (built' : covenant'.redeemScript terms' = .ok script) :
    terms = terms' ∧ covenant.version.bytecode = covenant'.version.bytecode := by
  obtain ⟨checked, rfl⟩ := redeemScript_eq_ok_iff.mp built
  obtain ⟨checked', same⟩ := redeemScript_eq_ok_iff.mp built'
  rw [termPushes_eq_encode, termPushes_eq_encode] at same
  obtain ⟨ops, bytecodes⟩ := Script.encode_append_inj (termOps_wellFormed checked)
    (termOps_wellFormed checked') rfl same
  exact ⟨termOps_injective ops, bytecodes⟩

theorem redeemScript_eq_error_iff {covenant : Covenant} {terms : Terms} :
    (∃ error, covenant.redeemScript terms = .error error) ↔ terms.check ≠ .ok () := by
  unfold redeemScript
  cases terms.check with
  | error failure => simp [bind, Except.bind]
  | ok => simp [bind, Except.bind, pure, Except.pure]

/-- Two covenants have one redeem script in common only for the same terms and with the same
bytecode. There is none for terms with a hash of another size or a number out of its range, and only
for those. -/
theorem redeemScript_unambiguous (covenant covenant' : Covenant)
    (terms terms' : Terms) :
    ((∃ script, covenant.redeemScript terms = .ok script ∧
        covenant'.redeemScript terms' = .ok script) ↔
      terms.check = .ok () ∧ terms = terms' ∧
        covenant.version.bytecode = covenant'.version.bytecode) ∧
    ((∃ error, covenant.redeemScript terms = .error error) ↔
      terms.senderPkh.length ≠ 20 ∨ terms.recipientPkh.length ≠ 20 ∨
        terms.hashLock.length ≠ 32 ∨ ¬ (1 ≤ terms.expiration ∧ terms.expiration ≤ 65535) ∨
        ¬ (0 ≤ terms.penaltyBps ∧ terms.penaltyBps ≤ 10000)) := by
  constructor
  · constructor
    · intro same
      obtain ⟨script, built, built'⟩ := same
      obtain ⟨checked, -⟩ := redeemScript_eq_ok_iff.mp built
      exact ⟨checked, redeemScript_inj built built'⟩
    · intro same
      obtain ⟨checked, rfl, bytecodes⟩ := same
      refine ⟨_, redeemScript_eq_ok_iff.mpr ⟨checked, rfl⟩, ?_⟩
      exact redeemScript_eq_ok_iff.mpr ⟨checked, by rw [bytecodes]⟩
  · rw [redeemScript_eq_error_iff, Ne, Terms.check_eq_ok_iff]
    omega

end Covenant

end SwapWatch
