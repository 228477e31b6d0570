import SwapWatch.Proofs.Wire.Counted

/-!
# Shortest counts

A count is written in its shortest form, and no other bytes of this length are read as it. The first
byte of a count tells how many bytes the count has; where fewer are left, some are reported missing.
-/

set_option autoImplicit false

namespace SwapWatch

/-- Bytes against a narrower way of writing them, which differs unless they are canonical. -/
structure Narrows (raw short : Bytes) (canonical : Prop) : Prop where
  length_le : short.length ≤ raw.length
  canonical_of_length : short.length = raw.length → canonical
  eq_of_canonical : canonical → short = raw

namespace Narrows

variable {raw short raw' short' : Bytes} {canonical canonical' : Prop}

theorem append (narrows : Narrows raw short canonical) (narrows' : Narrows raw' short' canonical') :
    Narrows (raw ++ raw') (short ++ short') (canonical ∧ canonical') := by
  have front := narrows.length_le
  have back := narrows'.length_le
  refine ⟨?_, ?_, ?_⟩
  · rw [List.length_append, List.length_append]
    exact Nat.add_le_add front back
  · intro same
    rw [List.length_append, List.length_append] at same
    exact ⟨narrows.canonical_of_length (by omega), narrows'.canonical_of_length (by omega)⟩
  · rintro ⟨holds, holds'⟩
    rw [narrows.eq_of_canonical holds, narrows'.eq_of_canonical holds']

theorem behind (front : Bytes) (narrows : Narrows raw short canonical) :
    Narrows (front ++ raw) (front ++ short) canonical := by
  have same : Narrows front front True := ⟨Nat.le_refl _, fun _ => trivial, fun _ => rfl⟩
  simpa only [true_and] using same.append narrows

theorem before (back : Bytes) (narrows : Narrows raw short canonical) :
    Narrows (raw ++ back) (short ++ back) canonical := by
  have same : Narrows back back True := ⟨Nat.le_refl _, fun _ => trivial, fun _ => rfl⟩
  simpa only [and_true] using narrows.append same

theorem flatMap {α : Type} {write narrow : α → Bytes} {isCanonical : α → Prop} {items : List α}
    (each : ∀ item ∈ items, Narrows (write item) (narrow item) (isCanonical item)) :
    Narrows (items.flatMap write) (items.flatMap narrow) (∀ item ∈ items, isCanonical item) := by
  induction items with
  | nil => exact ⟨Nat.le_refl _, fun _ => by simp, fun _ => rfl⟩
  | cons item items ih =>
    obtain ⟨head, tail⟩ := List.forall_mem_cons.mp each
    simp only [List.flatMap_cons, List.forall_mem_cons]
    exact head.append (ih tail)

theorem congr (narrows : Narrows raw short canonical) (same : canonical ↔ canonical') :
    Narrows raw short canonical' :=
  propext same ▸ narrows

theorem eq_iff (narrows : Narrows raw short canonical) : short = raw ↔ canonical := by
  constructor
  · intro same
    exact narrows.canonical_of_length (congrArg List.length same)
  · exact narrows.eq_of_canonical

theorem length_eq_iff (narrows : Narrows raw short canonical) :
    canonical ↔ short.length = raw.length := by
  constructor
  · intro holds
    exact congrArg List.length (narrows.eq_of_canonical holds)
  · exact narrows.canonical_of_length

end Narrows

namespace Wire.CompactSize

variable {count : Nat} {form : Form}

theorem encode_eq_write_iff (room : count < form.limit) :
    encode count = .ok (form.write count) ↔ form = .narrowest count := by
  have fits := Nat.lt_of_lt_of_le room form.limit_le
  rw [encode_eq_guarded, guarded_count_of_fits fits, Except.ok.injEq]
  constructor
  · intro same
    have size := congrArg List.length same
    rw [Form.length_write, Form.length_write] at size
    exact Form.size_injective size.symm
  · intro narrowest
    rw [← narrowest]

theorem narrows_count (room : count < form.limit) :
    Narrows (form.write count) ((Form.narrowest count).write count)
      (encode count = .ok (form.write count)) := by
  refine Narrows.congr ⟨?_, ?_, ?_⟩ (encode_eq_write_iff room).symm
  · rw [Form.length_write, Form.length_write]
    exact Form.size_narrowest_le room
  · intro same
    rw [Form.length_write, Form.length_write] at same
    exact Form.size_injective same.symm
  · rintro rfl
    rfl

/-! ## First bytes -/

/-- The form of a count that starts with the byte. -/
def Form.opened (first : Nat) : Form :=
  if first < 0xfd then bare
  else if first = 0xfd then two
  else if first = 0xfe then four
  else eight

theorem Form.exists_opened (room : count < form.limit) :
    ∃ first rest, form.write count = first :: rest ∧ opened first.toNat = form := by
  cases form with
  | bare =>
    have byte : (UInt8.ofNat count).toNat = count := by
      rw [UInt8.toNat_ofNat', Nat.mod_eq_of_lt (Nat.lt_trans room (by decide))]
    refine ⟨UInt8.ofNat count, [], rfl, ?_⟩
    rw [byte]
    exact if_pos room
  | two => exact ⟨0xfd, Endian.ofNat 2 count, rfl, rfl⟩
  | four => exact ⟨0xfe, Endian.ofNat 4 count, rfl, rfl⟩
  | eight => exact ⟨0xff, Endian.ofNat 8 count, rfl, rfl⟩

theorem Form.size_mem (form : Form) : form.size ∈ [1, 3, 5, 9] := by
  cases form <;> decide

/-- The number of bytes of the count at an offset. Where none is left, the first one is wanted. -/
def wantedAt (data : Bytes) (offset : Nat) : Nat :=
  match data[offset]? with
  | none => 1
  | some first => (Form.opened first.toNat).size

/-- What is reported where the count at an offset is cut: its first byte is missing, or those behind
it. -/
def shortAt (data : Bytes) (offset : Nat) : DecodeError :=
  match data[offset]? with
  | none => .short 1 offset (data.length - offset)
  | some first =>
    .short ((Form.opened first.toNat).size - 1) (offset + 1) (data.length - (offset + 1))

theorem wantedAt_write (room : count < form.limit) (front back : Bytes) :
    wantedAt (front ++ form.write count ++ back) front.length = form.size := by
  obtain ⟨first, rest, written, opened⟩ := Form.exists_opened room
  have here : (front ++ form.write count ++ back)[front.length]? = some first := by
    simp [written]
  simp only [wantedAt, here, opened]

/-! ## Missing bytes -/

theorem read_nil : read [] = .error ⟨1, 0⟩ :=
  rfl

theorem read_cons (first : UInt8) (rest : Bytes) :
    read (first :: rest) = readAfter first.toNat rest :=
  rfl

theorem readAfter_eq_error_iff {first : Nat} {rest : Bytes} {shortage : Shortage} :
    readAfter first rest = .error shortage ↔
      rest.length < (Form.opened first).size - 1 ∧
        shortage = ⟨(Form.opened first).size - 1, rest.length⟩ := by
  unfold readAfter Form.opened
  split
  · constructor
    · intro failed
      cases failed
    · rintro ⟨short, -⟩
      cases short
  · split
    · exact Reader.number_eq_error_iff
    · split
      · exact Reader.number_eq_error_iff
      · exact Reader.number_eq_error_iff

/-- A count is not read exactly where fewer bytes are left than its first byte calls for. -/
theorem runAt_eq_error_iff {data : Bytes} {offset : Nat} {error : DecodeError} :
    read.runAt data offset = .error error ↔
      data.length < offset + wantedAt data offset ∧ error = shortAt data offset := by
  rw [Reader.runAt_eq_error_iff]
  cases remaining : data.drop offset with
  | nil =>
    have past := List.drop_eq_nil_iff.mp remaining
    have nothing : data[offset]? = none := List.getElem?_eq_none past
    simp only [wantedAt, shortAt, nothing, read_nil]
    constructor
    · rintro ⟨wanted, left, position, ⟨⟩, place, rfl⟩
      obtain rfl : position = offset := by omega
      exact ⟨by omega, rfl⟩
    · rintro ⟨-, rfl⟩
      exact ⟨1, 0, offset, rfl, by omega, rfl⟩
  | cons first rest =>
    have here : data[offset]? = some first := by
      rw [← List.head?_drop, remaining, List.head?_cons]
    have size : data.length - offset = rest.length + 1 := by
      rw [← List.length_drop, remaining, List.length_cons]
    simp only [wantedAt, shortAt, here, read_cons, readAfter_eq_error_iff]
    constructor
    · rintro ⟨wanted, left, position, ⟨short, ⟨⟩⟩, place, rfl⟩
      obtain rfl : position = offset + 1 := by omega
      exact ⟨by omega, rfl⟩
    · rintro ⟨short, rfl⟩
      exact ⟨_, rest.length, offset + 1, ⟨by omega, rfl⟩, by omega, rfl⟩

/-! ## Numbers that are no counts -/

theorem encode_of_neg {value : Int} (negative : value < 0) : encode value = .error .negativeCount :=
  if_pos negative

theorem encode_of_large (large : 0x10000000000000000 ≤ count) :
    encode count = .error .tooLarge := by
  have wide : ¬(count : Int) < Nat.pow 256 8 := by
    rw [Int.ofNat_lt, Nat.not_lt]
    exact large
  rw [encode_eq_guarded, guarded_eq_error_iff, List.findSome?_singleton, NumberField.refusal?,
    if_neg (by omega), if_neg wide]

/-- A number that is refused is below zero or has no room in the widest form. -/
theorem encode_eq_error_iff {value : Int} {error : RangeError} :
    encode value = .error error ↔
      value < 0 ∧ error = .negativeCount ∨
        0x10000000000000000 ≤ value ∧ error = .tooLarge := by
  constructor
  · intro refused
    by_cases negative : value < 0
    · rw [encode_of_neg negative] at refused
      cases refused
      exact .inl ⟨negative, rfl⟩
    · obtain ⟨count, rfl⟩ := Int.eq_ofNat_of_zero_le (Int.not_lt.mp negative)
      by_cases fits : count < 0x10000000000000000
      · rw [encode_eq_guarded, guarded_count_of_fits fits] at refused
        cases refused
      · have large := Nat.not_lt.mp fits
        rw [encode_of_large large] at refused
        cases refused
        exact .inr ⟨Int.ofNat_le.mpr large, rfl⟩
  · rintro (⟨negative, rfl⟩ | ⟨large, rfl⟩)
    · exact encode_of_neg negative
    · obtain ⟨count, rfl⟩ := Int.eq_ofNat_of_zero_le (Int.le_trans (by decide) large)
      exact encode_of_large (Int.ofNat_le.mp large)

/-- The counts with room in the widest form, and no other numbers, are written, and are read back
anywhere. No count is read from fewer bytes than it is written in, nor from other bytes that are as
many. It is read wherever all the bytes are that its first byte calls for. -/
theorem counts_shortest_and_read_back :
    (∀ count : Nat, count < 0x10000000000000000 →
      ∃ bytes, encode count = .ok bytes ∧ ∀ front back : Bytes,
        read.runAt (front ++ bytes ++ back) front.length =
          .ok (count, front.length + bytes.length)) ∧
    (∀ data offset count stop, read.runAt data offset = .ok (count, stop) →
      count < 0x10000000000000000 ∧
      stop = offset + wantedAt data offset ∧ wantedAt data offset ∈ [1, 3, 5, 9] ∧
      ∃ bytes, encode count = .ok bytes ∧ bytes.length ≤ stop - offset ∧
        ((data.take stop).drop offset = bytes ↔ bytes.length = stop - offset)) ∧
    (∀ value error, encode value = .error error ↔
      value < 0 ∧ error = .negativeCount ∨
        0x10000000000000000 ≤ value ∧ error = .tooLarge) ∧
    ∀ data offset error, read.runAt data offset = .error error ↔
      data.length < offset + wantedAt data offset ∧ error = shortAt data offset := by
  refine ⟨?_, ?_, fun _ _ => encode_eq_error_iff, fun _ _ _ => runAt_eq_error_iff⟩
  · intro count fits
    have room := Form.lt_limit_narrowest fits
    refine ⟨_, (encode_eq_write_iff room).mpr rfl, ?_⟩
    intro front back
    exact (spells_read_iff.mpr ⟨_, room, rfl⟩).runAt front back
  · intro data offset count stop found
    obtain ⟨front, bytes, back, rfl, rfl, -, rfl, spells⟩ :=
      local_read.exists_bytes_of_runAt read_nil found
    obtain ⟨form, room, rfl⟩ := spells_read_iff.mp spells
    have fits := Nat.lt_of_lt_of_le room form.limit_le
    have window : ((front ++ form.write count ++ back).take
        (front.length + (form.write count).length)).drop front.length = form.write count := by
      rw [← List.length_append, List.take_left, List.drop_left]
    have narrows := narrows_count room
    rw [window, wantedAt_write room, Nat.add_sub_cancel_left]
    refine ⟨fits, by rw [Form.length_write], form.size_mem, _,
      (encode_eq_write_iff (Form.lt_limit_narrowest fits)).mpr rfl, narrows.length_le, ?_⟩
    rw [eq_comm, narrows.eq_iff, narrows.length_eq_iff]

/-- The least count that a byte alone does not hold, and five in three bytes. -/
theorem counts_shortest_and_read_back_three_bytes :
    0xfd < 0x10000000000000000 ∧
      (∃ bytes, encode 0xfd = .ok bytes ∧
        read.runAt ([7] ++ bytes ++ [9]) 1 = .ok (0xfd, 1 + bytes.length)) ∧
      read.runAt [7, 0xfd, 5, 0, 9] 1 = .ok (5, 4) ∧
      wantedAt [7, 0xfd, 5, 0, 9] 1 = 3 ∧
      ∃ bytes, encode 5 = .ok bytes ∧ bytes ≠ [0xfd, 5, 0] ∧ bytes.length < 3 := by
  obtain ⟨written, readIn, -, -⟩ := counts_shortest_and_read_back
  have fits : 0xfd < 0x10000000000000000 := by decide
  obtain ⟨bytes, encoded, readBack⟩ := written 0xfd fits
  have wide : read.runAt [7, 0xfd, 5, 0, 9] 1 = .ok (5, 4) := rfl
  obtain ⟨-, stops, -, short, encoded', narrow, same⟩ := readIn _ _ _ _ wide
  have bare : encode 5 = .ok [5] := rfl
  obtain rfl : short = [5] := Except.ok.inj (encoded'.symm.trans bare)
  have differs : [5] ≠ ([0xfd, 5, 0] : Bytes) := by decide
  refine ⟨fits, ⟨bytes, encoded, readBack [7] [9]⟩, wide, Nat.add_left_cancel stops.symm,
    [5], bare, differs, ?_⟩
  exact Nat.lt_of_le_of_ne narrow fun size => differs (same.mpr size).symm

end Wire.CompactSize

end SwapWatch
