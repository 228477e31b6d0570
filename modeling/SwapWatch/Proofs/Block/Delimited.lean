import SwapWatch.Proofs.Block.Layout

/-!
# Bytes that end themselves

Transactions and blocks say themselves where they end: without their last bytes they are too short,
and bytes behind them are left over. A transaction is read from its own bytes only, whatever stands
around them.
-/

set_option autoImplicit false

namespace SwapWatch

open Wire

namespace Wire

/-- Whatever is read as a whole is not read without its end, nor with more bytes behind it. -/
structure SelfDelimiting {α : Type} (container : Container)
    (decode : Bytes → Except DecodeError α) : Prop where
  cut : ∀ raw value, decode raw = .ok value → ∀ front, front <+: raw → front ≠ raw →
    ∃ wanted position left, decode front = .error (.short wanted position left)
  extended : ∀ raw value, decode raw = .ok value → ∀ more, more ≠ [] →
    decode (raw ++ more) = .error (.trailing more.length container)

namespace Reader

variable {α : Type} {reader : Reader α}

theorem Local.selfDelimiting (isLocal : reader.Local) (container : Container) :
    SelfDelimiting container (reader.runAll container) := by
  constructor
  · intro raw value read front cut proper
    exact isLocal.runAll_cut (isLocal.runAll_eq_ok_iff_spells.mp read) cut proper
  · intro raw value read more nonempty
    exact (isLocal.runAll_eq_ok_iff_spells.mp read).runAll_append nonempty

end Reader

end Wire

theorem Transaction.read_nil : Transaction.read [] = .error ⟨4, 0⟩ :=
  rfl

/-- Transactions and blocks end themselves, and a transaction at an offset is read from the bytes up
to its stop: it is the same between any others, and less than these bytes are too short. -/
theorem transactions_and_blocks_delimited :
    SelfDelimiting .transaction Transaction.ofBytes ∧
    (∀ height, SelfDelimiting .block (Block.ofBytes · height)) ∧
    ∀ data offset tx stop, Transaction.readAt data offset = .ok (tx, stop) →
      offset < stop ∧ stop ≤ data.length ∧
      (∀ front back : Bytes,
        Transaction.readAt (front ++ (data.take stop).drop offset ++ back) front.length =
          .ok (tx, front.length + (stop - offset))) ∧
      ∀ cut < stop, ∃ wanted position left,
        Transaction.readAt (data.take cut) offset = .error (.short wanted position left) := by
  refine ⟨Transaction.local_read.selfDelimiting .transaction,
    fun height => (Block.local_read height).selfDelimiting .block, ?_⟩
  intro data offset tx stop read
  obtain ⟨before, bytes, behind, rfl, rfl, nonempty, rfl, spells⟩ :=
    Transaction.local_read.exists_bytes_of_runAt Transaction.read_nil read
  have positive := List.length_pos_iff.mpr nonempty
  have window : ((before ++ bytes ++ behind).take (before.length + bytes.length)).drop
      before.length = bytes := by
    rw [← List.length_append, List.take_left, List.drop_left]
  refine ⟨by omega, ?_, ?_, ?_⟩
  · rw [List.length_append, List.length_append]
    omega
  · intro front back
    rw [window, Nat.add_sub_cancel_left]
    exact spells.runAt front back
  · intro cut early
    exact Transaction.local_read.runAt_take spells nonempty early

theorem transactions_and_blocks_delimited_ten_bytes :
    let raw : Bytes := [1, 0, 0, 0, 0, 0, 5, 0, 0, 0]
    let tx : Transaction := ⟨⟨1, [], [], 5⟩, Transaction.idOf raw⟩
    Transaction.readAt (7 :: raw ++ [8, 9]) 1 = .ok (tx, 11) ∧
      Transaction.readAt (raw ++ [6]) 0 = .ok (tx, 10) ∧
      Transaction.ofBytes (raw ++ [6]) = .error (.trailing 1 .transaction) ∧
      (∃ wanted position left,
        Transaction.ofBytes (raw.take 9) = .error (.short wanted position left)) ∧
      ∃ wanted position left,
        Transaction.readAt (7 :: raw.take 9) 1 = .error (.short wanted position left) := by
  intro raw tx
  have spells : Transaction.read.Spells raw tx :=
    Transaction.spells_encode (by simp [TxBody.IdsSized]) rfl
  have whole := Transaction.ofBytes_eq_ok_iff.mpr spells
  have read : Transaction.readAt (7 :: raw ++ [8, 9]) 1 = .ok (tx, 11) := spells.runAt [7] [8, 9]
  obtain ⟨transactions, -, located⟩ := transactions_and_blocks_delimited
  obtain ⟨-, -, moved, short⟩ := located _ _ _ _ read
  exact ⟨read, moved [] [6], transactions.extended raw tx whole [6] (by simp),
    transactions.cut raw tx whole (raw.take 9) (List.take_prefix 9 raw) (by decide),
    short 10 (by decide)⟩

end SwapWatch
