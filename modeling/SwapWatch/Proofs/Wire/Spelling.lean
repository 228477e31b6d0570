import Mathlib.Data.List.Forall2
import SwapWatch.Proofs.Wire.Reader

/-!
# Spellings

Bytes spell a value for a reader when it takes exactly them off whatever follows them. The readers
of the wire format are local: all that they take off an input is a spelling of what they return. No
spelling is a beginning of another one, so a local reader runs short on the beginning of one and
leaves what was put behind one.
-/

set_option autoImplicit false

namespace SwapWatch.Wire.Reader

variable {α β : Type} {reader : Reader α} {next : α → Reader β} {bytes data rest : Bytes} {value : α}

/-- In front of whatever follows, the reader takes off exactly these bytes and returns the value. -/
def Spells (reader : Reader α) (bytes : Bytes) (value : α) : Prop :=
  ∀ rest, reader (bytes ++ rest) = .ok (value, rest)

/-- What the reader takes off an input spells the value that it returns. -/
def Local (reader : Reader α) : Prop :=
  ∀ data value rest, reader data = .ok (value, rest) →
    ∃ front, data = front ++ rest ∧ reader.Spells front value

theorem Spells.whole (spells : reader.Spells bytes value) : reader bytes = .ok (value, []) := by
  have found := spells []
  rwa [List.append_nil] at found

theorem Local.spells_of_whole (isLocal : reader.Local) (read : reader bytes = .ok (value, [])) :
    reader.Spells bytes value := by
  obtain ⟨front, rfl, spells⟩ := isLocal _ _ _ read
  rwa [List.append_nil]

/-- The proper beginning of a spelling is too short. -/
theorem Local.short_of_cut (isLocal : reader.Local) (spells : reader.Spells bytes value)
    {cut missing : Bytes} (cutOff : bytes = cut ++ missing) (nonempty : missing ≠ []) :
    ∃ shortage, reader cut = .error shortage := by
  cases read : reader cut with
  | error shortage => exact ⟨shortage, rfl⟩
  | ok parts =>
    obtain ⟨value', left⟩ := parts
    obtain ⟨front, rfl, spells'⟩ := isLocal _ _ _ read
    have found := spells' (left ++ missing)
    rw [← List.append_assoc, ← cutOff, spells.whole] at found
    have empty : [] = left ++ missing := congrArg Prod.snd (Except.ok.inj found)
    exact absurd (List.append_eq_nil_iff.mp empty.symm).2 nonempty

/-! ## Single values -/

theorem spells_pure_iff {value' : α} :
    Spells (pure value) bytes value' ↔ bytes = [] ∧ value' = value := by
  constructor
  · intro spells
    cases spells.whole
    exact ⟨rfl, rfl⟩
  · rintro ⟨rfl, rfl⟩ rest
    rfl

theorem local_pure : Local (pure value) := by
  intro data value' rest read
  cases read
  exact ⟨[], rfl, spells_pure_iff.mpr ⟨rfl, rfl⟩⟩

theorem take_eq_ok_iff {count : Nat} {front : Bytes} :
    take count data = .ok (front, rest) ↔ front.length = count ∧ data = front ++ rest := by
  rw [← Bytes.splitExact?_eq_some_iff]
  unfold take
  cases data.splitExact? count with
  | none => simp
  | some parts => simp

theorem take_eq_error_iff {count : Nat} {shortage : Shortage} :
    take count data = .error shortage ↔
      data.length < count ∧ shortage = ⟨count, data.length⟩ := by
  rw [← Bytes.splitExact?_eq_none_iff]
  unfold take
  cases data.splitExact? count with
  | none => simp [eq_comm]
  | some parts => simp

theorem spells_take_iff {count : Nat} {front : Bytes} :
    (take count).Spells bytes front ↔ front = bytes ∧ bytes.length = count := by
  constructor
  · intro spells
    obtain ⟨size, parts⟩ := take_eq_ok_iff.mp spells.whole
    rw [List.append_nil] at parts
    subst parts
    exact ⟨rfl, size⟩
  · rintro ⟨rfl, size⟩ rest
    exact take_eq_ok_iff.mpr ⟨size, rfl⟩

theorem local_take (count : Nat) : (take count).Local := by
  intro data front rest read
  obtain ⟨size, parts⟩ := take_eq_ok_iff.mp read
  exact ⟨front, parts, spells_take_iff.mpr ⟨rfl, size⟩⟩

/-! ## Values in a row -/

theorem Spells.bind {front back : Bytes} {result : β} (first : reader.Spells front value)
    (second : (next value).Spells back result) :
    Spells (reader >>= next) (front ++ back) result := by
  intro rest
  rw [List.append_assoc]
  exact bind_eq_ok_iff.mpr ⟨value, back ++ rest, first (back ++ rest), second rest⟩

theorem Local.bind (first : reader.Local) (second : ∀ value, (next value).Local) :
    Local (reader >>= next) := by
  intro data result rest read
  obtain ⟨value, middle, read, read'⟩ := bind_eq_ok_iff.mp read
  obtain ⟨front, rfl, spells⟩ := first _ _ _ read
  obtain ⟨back, rfl, spells'⟩ := second _ _ _ _ read'
  exact ⟨front ++ back, (List.append_assoc ..).symm, spells.bind spells'⟩

/-- What a row takes off an input starts with a spelling of its first value. -/
theorem Local.of_bind_eq_ok {result : β} (first : reader.Local)
    (read : (reader >>= next) data = .ok (result, rest)) :
    ∃ value front back, data = front ++ back ∧ reader.Spells front value ∧
      next value back = .ok (result, rest) := by
  obtain ⟨value, back, read, read'⟩ := bind_eq_ok_iff.mp read
  obtain ⟨front, parts, spells⟩ := first _ _ _ read
  exact ⟨value, front, back, parts, spells, read'⟩

theorem Local.spells_bind_iff {result : β} (first : reader.Local)
    (second : ∀ value, (next value).Local) :
    Spells (reader >>= next) bytes result ↔
      ∃ value front back, bytes = front ++ back ∧ reader.Spells front value ∧
        (next value).Spells back result := by
  constructor
  · intro spells
    obtain ⟨value, front, back, parts, spells, read⟩ := first.of_bind_eq_ok spells.whole
    exact ⟨value, front, back, parts, spells, (second value).spells_of_whole read⟩
  · rintro ⟨value, front, back, rfl, spells, spells'⟩
    exact spells.bind spells'

theorem Local.many (each : reader.Local) (count : Nat) : (many reader count).Local := by
  induction count with
  | zero => exact local_pure
  | succ count ih => exact each.bind fun value => ih.bind fun values => local_pure

/-- A row of values is spelled by the spellings of its values, one behind the other. -/
theorem Local.spells_many_iff (each : reader.Local) {count : Nat} {values : List α} :
    (Reader.many reader count).Spells bytes values ↔
      ∃ parts, bytes = parts.flatten ∧ parts.length = count ∧
        List.Forall₂ reader.Spells parts values := by
  induction count generalizing bytes values with
  | zero =>
    constructor
    · intro spells
      obtain ⟨rfl, rfl⟩ := spells_pure_iff.mp spells
      exact ⟨[], rfl, rfl, .nil⟩
    · rintro ⟨parts, rfl, none, spelled⟩
      obtain rfl := List.eq_nil_of_length_eq_zero none
      cases spelled
      exact spells_pure_iff.mpr ⟨rfl, rfl⟩
  | succ count ih =>
    have tail : ∀ value, Local (Reader.many reader count >>= fun values => pure (value :: values)) :=
      fun value => (each.many count).bind fun values => local_pure
    constructor
    · intro spells
      obtain ⟨value, part, back, rfl, first, spells⟩ := (each.spells_bind_iff tail).mp spells
      obtain ⟨values, back, last, rfl, others, spells⟩ :=
        ((each.many count).spells_bind_iff fun values => local_pure).mp spells
      obtain ⟨rfl, rfl⟩ := spells_pure_iff.mp spells
      obtain ⟨parts, rfl, size, spelled⟩ := ih.mp others
      refine ⟨part :: parts, ?_, congrArg (· + 1) size, .cons first spelled⟩
      rw [List.append_nil, List.flatten_cons]
    · rintro ⟨parts, rfl, size, spelled⟩
      cases spelled with
      | nil => cases size
      | @cons part value parts values first spelled =>
        have others := ih.mpr ⟨parts, rfl, Nat.succ.inj size, spelled⟩
        refine (each.spells_bind_iff tail).mpr ⟨value, part, parts.flatten, rfl, first, ?_⟩
        refine ((each.many count).spells_bind_iff fun values => local_pure).mpr ?_
        exact ⟨values, _, [], (List.append_nil _).symm, others, spells_pure_iff.mpr ⟨rfl, rfl⟩⟩

theorem Local.spells_withBytes_iff (isLocal : reader.Local) {raw : Bytes} :
    reader.withBytes.Spells bytes (value, raw) ↔ reader.Spells bytes value ∧ raw = bytes := by
  constructor
  · intro spells
    obtain ⟨read, rfl⟩ := withBytes_eq_ok_iff.mp spells.whole
    exact ⟨isLocal.spells_of_whole read, List.take_length⟩
  · rintro ⟨spells, rfl⟩ rest
    refine withBytes_eq_ok_iff.mpr ⟨spells rest, ?_⟩
    rw [List.length_append, Nat.add_sub_cancel, List.take_left]

theorem Local.withBytes (isLocal : reader.Local) : reader.withBytes.Local := by
  rintro data ⟨value, raw⟩ rest read
  obtain ⟨found, rfl⟩ := withBytes_eq_ok_iff.mp read
  obtain ⟨front, rfl, spells⟩ := isLocal _ _ _ found
  refine ⟨front, rfl, isLocal.spells_withBytes_iff.mpr ⟨spells, ?_⟩⟩
  rw [List.length_append, Nat.add_sub_cancel, List.take_left]

/-! ## Bytes of a size -/

/-- Every byte string of the size spells some value. -/
def Fixed (reader : Reader α) (size : Nat) : Prop :=
  ∀ bytes : Bytes, bytes.length = size → ∃ value, reader.Spells bytes value

theorem fixed_pure : Fixed (pure value) 0 := by
  intro bytes empty
  exact ⟨value, spells_pure_iff.mpr ⟨List.eq_nil_of_length_eq_zero empty, rfl⟩⟩

theorem fixed_take (count : Nat) : (take count).Fixed count := by
  intro bytes size
  exact ⟨bytes, spells_take_iff.mpr ⟨rfl, size⟩⟩

theorem Fixed.bind {size size' : Nat} (first : reader.Fixed size)
    (second : ∀ value, (next value).Fixed size') : Fixed (reader >>= next) (size + size') := by
  intro bytes all
  have front : (bytes.take size).length = size := List.length_take_of_le (by omega)
  have back : (bytes.drop size).length = size' := by
    rw [List.length_drop]
    omega
  obtain ⟨value, spells⟩ := first _ front
  obtain ⟨result, spells'⟩ := second value _ back
  rw [← List.take_append_drop size bytes]
  exact ⟨result, spells.bind spells'⟩

/-! ## Reading at an offset and to the end -/

theorem Spells.runAt (spells : reader.Spells bytes value) (front back : Bytes) :
    reader.runAt (front ++ bytes ++ back) front.length =
      .ok (value, front.length + bytes.length) := by
  have dropped : (front ++ bytes ++ back).drop front.length = bytes ++ back := by
    rw [List.append_assoc, List.drop_left]
  rw [Reader.runAt, dropped, spells back]
  simp only [List.length_append, Nat.add_sub_cancel]

/-- Where data ends inside a spelling, it is too short. -/
theorem Local.runAt_of_cut (isLocal : reader.Local) (spells : reader.Spells bytes value)
    {offset : Nat} {missing : Bytes} (cutOff : bytes = data.drop offset ++ missing)
    (nonempty : missing ≠ []) :
    ∃ wanted position left, reader.runAt data offset = .error (.short wanted position left) := by
  obtain ⟨shortage, short⟩ := isLocal.short_of_cut spells cutOff nonempty
  rw [Reader.runAt, short]
  exact ⟨_, _, _, rfl⟩

/-- What was read at an offset is spelled by the bytes between this offset and the next one. -/
theorem Local.spells_of_runAt (isLocal : reader.Local) {offset stop : Nat}
    (inside : offset ≤ data.length) (read : reader.runAt data offset = .ok (value, stop)) :
    ∃ front bytes back, data = front ++ bytes ++ back ∧ front.length = offset ∧
      stop = offset + bytes.length ∧ reader.Spells bytes value := by
  unfold Reader.runAt at read
  cases found : reader (data.drop offset) with
  | error shortage => simp [found] at read
  | ok parts =>
    obtain ⟨value', rest⟩ := parts
    simp only [found, Except.ok.injEq, Prod.mk.injEq] at read
    obtain ⟨rfl, rfl⟩ := read
    obtain ⟨bytes, parts, spells⟩ := isLocal _ _ _ found
    have size := congrArg List.length parts
    rw [List.length_drop, List.length_append] at size
    refine ⟨data.take offset, bytes, rest, ?_, List.length_take_of_le inside, by omega, spells⟩
    rw [List.append_assoc, ← parts, List.take_append_drop]

/-- A reader that runs short on no bytes has read at least one of those up to the stop. -/
theorem Local.exists_bytes_of_runAt (isLocal : reader.Local) {shortage : Shortage}
    (empty : reader [] = .error shortage) {offset stop : Nat}
    (read : reader.runAt data offset = .ok (value, stop)) :
    ∃ front bytes back, data = front ++ bytes ++ back ∧ front.length = offset ∧ bytes ≠ [] ∧
      stop = offset + bytes.length ∧ reader.Spells bytes value := by
  have inside : offset ≤ data.length := by
    by_contra past
    rw [runAt, List.drop_eq_nil_of_le (by omega), empty] at read
    cases read
  obtain ⟨front, bytes, back, parts, size, stops, spells⟩ := isLocal.spells_of_runAt inside read
  refine ⟨front, bytes, back, parts, size, ?_, stops, spells⟩
  rintro rfl
  cases empty.symm.trans spells.whole

theorem Local.runAt_take (isLocal : reader.Local) {front bytes back : Bytes}
    (spells : reader.Spells bytes value) (nonempty : bytes ≠ []) {cut : Nat}
    (before : cut < front.length + bytes.length) :
    ∃ wanted position left, reader.runAt ((front ++ bytes ++ back).take cut) front.length =
      .error (.short wanted position left) := by
  have positive := List.length_pos_iff.mpr nonempty
  have kept : ((front ++ bytes ++ back).take cut).drop front.length =
      bytes.take (cut - front.length) := by
    rw [List.drop_take, List.append_assoc, List.drop_left, List.take_append_of_le_length (by omega)]
  have missing : bytes.drop (cut - front.length) ≠ [] := by
    intro none
    have all := List.drop_eq_nil_iff.mp none
    omega
  refine isLocal.runAt_of_cut spells ?_ missing
  rw [kept, List.take_append_drop]

theorem Local.runAll_eq_ok_iff_spells (isLocal : reader.Local) {container : Container} :
    reader.runAll container data = .ok value ↔ reader.Spells data value := by
  rw [runAll_eq_ok_iff]
  constructor
  · rintro ⟨rest, read, all⟩
    obtain ⟨front, rfl, spells⟩ := isLocal _ _ _ read
    rw [List.length_append] at all
    obtain rfl : rest = [] := List.eq_nil_of_length_eq_zero (by omega)
    rwa [List.append_nil]
  · intro spells
    exact ⟨[], spells.whole, Nat.sub_zero _⟩

theorem Spells.runAll_append (spells : reader.Spells bytes value) {container : Container}
    {more : Bytes} (nonempty : more ≠ []) :
    reader.runAll container (bytes ++ more) = .error (.trailing more.length container) := by
  have read := spells.runAt [] more
  rw [List.nil_append, List.length_nil, Nat.zero_add] at read
  have positive := List.length_pos_iff.mpr nonempty
  have unread : bytes.length ≠ (bytes ++ more).length := by
    rw [List.length_append]
    omega
  have left : (bytes ++ more).length - bytes.length = more.length := by
    rw [List.length_append, Nat.add_sub_cancel_left]
  rw [runAll, read, ← left]
  exact if_neg unread

theorem Local.runAll_cut (isLocal : reader.Local) (spells : reader.Spells bytes value)
    {container : Container} {cut : Bytes} (front : cut <+: bytes) (proper : cut ≠ bytes) :
    ∃ wanted position left,
      reader.runAll container cut = .error (.short wanted position left) := by
  obtain ⟨missing, rfl⟩ := front
  have nonempty : missing ≠ [] := by
    rintro rfl
    exact proper (List.append_nil cut).symm
  obtain ⟨wanted, position, left, failed⟩ :
      ∃ wanted position left, reader.runAt cut 0 = .error (.short wanted position left) :=
    isLocal.runAt_of_cut spells rfl nonempty
  refine ⟨wanted, position, left, ?_⟩
  rw [runAll, failed]
  rfl

end SwapWatch.Wire.Reader
