import SwapWatch.Proofs.Detection.Declared
import SwapWatch.Proofs.Detection.Parts
import SwapWatch.Proofs.Detection.Spend

/-!
# What detectors agree on

Tag, oracle and bytecode decide whether a detector finds a step of a swap. What it finds is written
in the transaction, so two detectors that find a step of one kind find the same one. Claims push
three times and reclaims at most once, so no script is both, whatever the bytecodes.
-/

set_option autoImplicit false

namespace SwapWatch

open Script (Op)

/-- No two items have different answers. -/
def Agrees {α β : Type} (search : α → Option β) : Prop :=
  ∀ ⦃item item' found found'⦄, search item = some found → search item' = some found' →
    found = found'

namespace Declaration

variable {tag tag' script : Bytes} {declared declared' : Declaration}

theorem ofPushes?_agree {pushes : List Bytes} (found : ofPushes? tag pushes = some declared)
    (found' : ofPushes? tag' pushes = some declared') : declared = declared' := by
  obtain ⟨parts, rfl, rfl⟩ := ofPushes?_eq_some_iff.mp found
  obtain ⟨parts', same, rfl⟩ := ofPushes?_eq_some_iff.mp found'
  simp only [Parts.pushes, List.cons.injEq, and_true] at same
  obtain ⟨-, recipient, sender, hashLock, expiration, penalty, address⟩ := same
  simp only [Parts.declaration, recipient, sender, hashLock, expiration, penalty, address]

theorem ofScript?_agree (found : ofScript? tag script = some declared)
    (found' : ofScript? tag' script = some declared') : declared = declared' := by
  obtain ⟨pushes, carried, read⟩ := Option.bind_eq_some_iff.mp found
  obtain ⟨pushes', carried', read'⟩ := Option.bind_eq_some_iff.mp found'
  obtain rfl : pushes = pushes' := Option.some.inj (carried.symm.trans carried')
  exact ofPushes?_agree read read'

end Declaration

namespace Spend

variable {script bytecode bytecode' : Bytes} {secret secret' : String}

theorem secret?_agree (found : secret? script bytecode = some secret)
    (found' : secret? script bytecode' = some secret') : secret = secret' := by
  obtain ⟨-, ops, bytes, selector, redeem, parsed, pushes, -, shown⟩ := secret?_eq_some_iff.mp found
  obtain ⟨-, ops', bytes', selector', redeem', parsed', pushes', -, shown'⟩ :=
    secret?_eq_some_iff.mp found'
  obtain rfl : ops = ops' := Except.ok.inj (parsed.symm.trans parsed')
  have same : bytes = bytes' := (List.cons.inj (pushes.symm.trans pushes')).1
  rw [← shown, ← shown', same]

theorem pushes_of_secret? (found : secret? script bytecode = some secret) :
    ∃ pushes, Script.pushedData script = .ok pushes ∧ pushes.length = 3 := by
  obtain ⟨-, ops, bytes, selector, redeem, parsed, pushes, -⟩ := secret?_eq_some_iff.mp found
  exact ⟨_, Script.pushedData_eq_ok_iff.mpr ⟨ops, parsed, pushes⟩, rfl⟩

theorem pushes_of_isReclaim (found : isReclaim script bytecode = true) :
    ∃ pushes, Script.pushedData script = .ok pushes ∧ pushes.length ≤ 1 := by
  obtain ⟨-, op, parsed⟩ := isReclaim_iff.mp found
  refine ⟨_, Script.pushedData_eq_ok_iff.mpr ⟨_, parsed, rfl⟩, ?_⟩
  rw [List.filterMap_cons_none rfl]
  exact List.length_filterMap_le Op.data? [op]

/-- A script that reveals a secret under one bytecode is no reclaim under any other. -/
theorem isReclaim_of_secret? (found : secret? script bytecode = some secret) :
    isReclaim script bytecode' = false := by
  cases reclaims : isReclaim script bytecode' with
  | false => rfl
  | true =>
    obtain ⟨pushes, pushed, three⟩ := pushes_of_secret? found
    obtain ⟨pushes', pushed', atMostOne⟩ := pushes_of_isReclaim reclaims
    obtain rfl : pushes = pushes' := Except.ok.inj (pushed.symm.trans pushed')
    omega

end Spend

namespace Detector

variable {detector detector' : Detector} {tx : Transaction}

theorem judgeDeclared_eq_accepted {txid : String} {value : Int} {scriptHash : Bytes}
    {declared : Declaration} {record : Deposit} :
    detector.judgeDeclared txid value scriptHash declared = .accepted record ↔
      detector.oracle declared.terms = .ok scriptHash ∧
        record = declared.terms.deposit txid declared.senderEvmAddr scriptHash value := by
  unfold judgeDeclared
  cases detector.oracle declared.terms with
  | error failure => simp
  | ok expected =>
    by_cases committed : expected = scriptHash
    · subst committed
      simp only [if_true, DepositVerdict.accepted.injEq, true_and]
      exact eq_comm
    · simp [committed]

/-- A deposit is found exactly where the first output is locked to the script hash that the oracle
gives for the terms that the second output declares. -/
theorem deposit?_eq_some {record : Deposit} :
    detector.deposit? tx = some record ↔ ∃ locked declaring more scriptHash declared,
      tx.outputs = locked :: declaring :: more ∧
        Script.lockedHash? locked.script = some scriptHash ∧
        Declaration.ofScript? detector.tag declaring.script = some declared ∧
        detector.oracle declared.terms = .ok scriptHash ∧
        record = declared.terms.deposit tx.txid declared.senderEvmAddr scriptHash locked.value := by
  rw [deposit?_eq_some_iff]
  constructor
  · intro accepted
    unfold judgeDeposit at accepted
    split at accepted
    · next locked declaring more outputs =>
      split at accepted
      · next scriptHash declared lock carried =>
        obtain ⟨committed, same⟩ := judgeDeclared_eq_accepted.mp accepted
        exact ⟨locked, declaring, more, scriptHash, declared, outputs, lock, carried, committed,
          same⟩
      · cases accepted
    · cases accepted
  · rintro ⟨locked, declaring, more, scriptHash, declared, outputs, lock, carried, committed, same⟩
    simp only [judgeDeposit, outputs, lock, carried]
    exact judgeDeclared_eq_accepted.mpr ⟨committed, same⟩

theorem spendingInput?_eq_some {input : TxInput} :
    spendingInput? tx = some input ↔ ∃ others, tx.inputs = input :: others ∧ others.length ≤ 1 := by
  unfold spendingInput?
  constructor
  · intro found
    split at found
    · next first inputs =>
      cases found
      exact ⟨[], inputs, Nat.zero_le 1⟩
    · next first second inputs =>
      cases found
      exact ⟨[second], inputs, Nat.le_refl 1⟩
    · cases found
  · rintro ⟨others, inputs, few⟩
    match others, few with
    | [], _ => simp only [inputs]
    | [second], _ => simp only [inputs]

theorem receipt?_eq_some {record : Receipt} :
    detector.receipt? tx = some record ↔ ∃ input secret, spendingInput? tx = some input ∧
      Spend.secret? input.script detector.version.bytecode = some secret ∧
      record = ⟨input.outpoint.txid, tx.txid, secret⟩ := by
  simp only [receipt?, Option.bind_eq_bind, Option.bind_eq_some_iff, Option.pure_def,
    Option.some.injEq]
  constructor
  · rintro ⟨input, spending, secret, revealed, rfl⟩
    exact ⟨input, secret, spending, revealed, rfl⟩
  · rintro ⟨input, secret, spending, revealed, rfl⟩
    exact ⟨input, spending, secret, revealed, rfl⟩

theorem refund?_eq_some {record : Refund} :
    detector.refund? tx = some record ↔ ∃ input, spendingInput? tx = some input ∧
      Spend.isReclaim input.script detector.version.bytecode = true ∧
      record = ⟨input.outpoint.txid, tx.txid⟩ := by
  simp only [refund?, Option.bind_eq_bind, Option.bind_eq_some_iff]
  constructor
  · rintro ⟨input, spending, found⟩
    split at found
    · next reclaims => exact ⟨input, spending, reclaims, (Option.some.inj found).symm⟩
    · cases found
  · rintro ⟨input, spending, reclaims, rfl⟩
    exact ⟨input, spending, by rw [if_pos reclaims]; rfl⟩

/-- The detector finds this event in the transaction. -/
def Detects (detector : Detector) (tx : Transaction) : Event → Prop
  | .deposit record => detector.deposit? tx = some record
  | .receipt record => detector.receipt? tx = some record
  | .refund record => detector.refund? tx = some record

theorem deposit?_agrees (tx : Transaction) :
    Agrees fun detector : Detector => detector.deposit? tx := by
  intro detector detector' record record' found found'
  obtain ⟨locked, declaring, more, hash, declared, outputs, lock, carried, -, rfl⟩ :=
    deposit?_eq_some.mp found
  obtain ⟨locked', declaring', more', hash', declared', outputs', lock', carried', -, rfl⟩ :=
    deposit?_eq_some.mp found'
  obtain ⟨rfl, rest⟩ := List.cons.inj (outputs.symm.trans outputs')
  obtain ⟨rfl, -⟩ := List.cons.inj rest
  obtain rfl : hash = hash' := Option.some.inj (lock.symm.trans lock')
  obtain rfl : declared = declared' := Declaration.ofScript?_agree carried carried'
  rfl

theorem receipt?_agrees (tx : Transaction) :
    Agrees fun detector : Detector => detector.receipt? tx := by
  intro detector detector' record record' found found'
  obtain ⟨input, secret, spending, revealed, rfl⟩ := receipt?_eq_some.mp found
  obtain ⟨input', secret', spending', revealed', rfl⟩ := receipt?_eq_some.mp found'
  obtain rfl : input = input' := Option.some.inj (spending.symm.trans spending')
  rw [Spend.secret?_agree revealed revealed']

theorem refund?_agrees (tx : Transaction) :
    Agrees fun detector : Detector => detector.refund? tx := by
  intro detector detector' record record' found found'
  obtain ⟨input, spending, -, rfl⟩ := refund?_eq_some.mp found
  obtain ⟨input', spending', -, rfl⟩ := refund?_eq_some.mp found'
  obtain rfl : input = input' := Option.some.inj (spending.symm.trans spending')
  rfl

/-- What two detectors find of one kind is the same. -/
theorem Detects.agree {event event' : Event} (found : detector.Detects tx event)
    (found' : detector'.Detects tx event') (same : event.kind = event'.kind) : event = event' := by
  cases event with
  | deposit record =>
    cases event' with
    | deposit record' => exact congrArg Event.deposit (deposit?_agrees tx found found')
    | receipt record' => simp [Event.kind] at same
    | refund record' => simp [Event.kind] at same
  | receipt record =>
    cases event' with
    | deposit record' => simp [Event.kind] at same
    | receipt record' => exact congrArg Event.receipt (receipt?_agrees tx found found')
    | refund record' => simp [Event.kind] at same
  | refund record =>
    cases event' with
    | deposit record' => simp [Event.kind] at same
    | receipt record' => simp [Event.kind] at same
    | refund record' => exact congrArg Event.refund (refund?_agrees tx found found')

theorem refund?_of_receipt? {record : Receipt} (found : detector.receipt? tx = some record) :
    detector'.refund? tx = none := by
  obtain ⟨input, secret, spending, revealed, -⟩ := receipt?_eq_some.mp found
  rw [Option.eq_none_iff_forall_ne_some]
  intro refund reclaimed
  obtain ⟨input', spending', reclaims, -⟩ := refund?_eq_some.mp reclaimed
  obtain rfl : input = input' := Option.some.inj (spending.symm.trans spending')
  rw [Spend.isReclaim_of_secret? revealed] at reclaims
  cases reclaims

theorem receipt?_of_refund? {record : Refund} (found : detector.refund? tx = some record) :
    detector'.receipt? tx = none := by
  cases claimed : detector'.receipt? tx with
  | none => rfl
  | some receipt =>
    rw [refund?_of_receipt? claimed] at found
    cases found

end Detector

end SwapWatch
