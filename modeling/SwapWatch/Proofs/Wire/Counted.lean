import SwapWatch.Proofs.Wire.Field
import SwapWatch.Wire.Field

/-!
# Forms of counts

A count can stand in up to four forms. Reading admits each of them, writing takes the narrowest, and
a wider form has more bytes.
-/

set_option autoImplicit false

namespace SwapWatch.Wire

open Reader (Spells Local)

namespace CompactSize

/-- The forms of a count: one bare byte, or a marker and a field of two, four or eight bytes. -/
inductive Form where
  | bare
  | two
  | four
  | eight
deriving DecidableEq, Repr

namespace Form

/-- The counts below the limit can stand in the form. -/
def limit : Form → Nat
  | bare => 0xfd
  | two => 0x10000
  | four => 0x100000000
  | eight => 0x10000000000000000

def write : Form → Nat → Bytes
  | bare, count => Endian.ofNat 1 count
  | two, count => 0xfd :: Endian.ofNat 2 count
  | four, count => 0xfe :: Endian.ofNat 4 count
  | eight, count => 0xff :: Endian.ofNat 8 count

def size : Form → Nat
  | bare => 1
  | two => 3
  | four => 5
  | eight => 9

def narrowest (count : Nat) : Form :=
  if count < 0xfd then bare
  else if count < 0x10000 then two
  else if count < 0x100000000 then four
  else eight

@[simp]
theorem length_write (form : Form) (count : Nat) : (form.write count).length = form.size := by
  cases form <;> simp [write, size]

theorem size_injective {form form' : Form} (same : form.size = form'.size) : form = form' := by
  cases form <;> cases form' <;> grind [size]

theorem limit_le (form : Form) : form.limit ≤ 0x10000000000000000 := by
  cases form <;> decide

theorem lt_limit_narrowest {count : Nat} (fits : count < 0x10000000000000000) :
    count < (narrowest count).limit := by
  unfold narrowest
  split
  · assumption
  · split
    · assumption
    · split
      · assumption
      · exact fits

theorem size_narrowest_le {form : Form} {count : Nat} (admits : count < form.limit) :
    (narrowest count).size ≤ form.size := by
  unfold narrowest
  cases form <;> simp only [limit] at admits <;> grind [size]

end Form

variable {count : Nat} {bytes : Bytes}

def readAfter (first : Nat) : Reader Nat :=
  if first < 0xfd then return first
  else if first = 0xfd then Reader.number 2
  else if first = 0xfe then Reader.number 4
  else Reader.number 8

theorem read_eq : read = Reader.number 1 >>= readAfter :=
  rfl

theorem local_readAfter (first : Nat) : (readAfter first).Local := by
  unfold readAfter
  split
  · exact Reader.local_pure
  · split
    · exact Reader.local_number 2
    · split
      · exact Reader.local_number 4
      · exact Reader.local_number 8

theorem local_read : read.Local :=
  (Reader.local_number 1).bind local_readAfter

theorem spells_read_of_first {first : Nat} (small : first < 0x100)
    (spells : (readAfter first).Spells bytes count) :
    read.Spells (Endian.ofNat 1 first ++ bytes) count :=
  (Reader.spells_number_iff.mpr ⟨small, rfl⟩).bind spells

/-- A count is read from every form that has room for it. -/
theorem spells_read_iff :
    read.Spells bytes count ↔ ∃ form : Form, count < form.limit ∧ bytes = form.write count := by
  constructor
  · intro spells
    rw [read_eq, (Reader.local_number 1).spells_bind_iff local_readAfter] at spells
    obtain ⟨first, front, back, rfl, opened, spells⟩ := spells
    obtain ⟨small, rfl⟩ := Reader.spells_number_iff.mp opened
    unfold readAfter at spells
    split at spells
    · next bare =>
      obtain ⟨rfl, rfl⟩ := Reader.spells_pure_iff.mp spells
      exact ⟨.bare, bare, rfl⟩
    · split at spells
      · next marker =>
        subst marker
        obtain ⟨fits, rfl⟩ := Reader.spells_number_iff.mp spells
        exact ⟨.two, fits, rfl⟩
      · split at spells
        · next marker =>
          subst marker
          obtain ⟨fits, rfl⟩ := Reader.spells_number_iff.mp spells
          exact ⟨.four, fits, rfl⟩
        · have bound : Nat.pow 256 1 = 0x100 := rfl
          obtain rfl : first = 0xff := by omega
          obtain ⟨fits, rfl⟩ := Reader.spells_number_iff.mp spells
          exact ⟨.eight, fits, rfl⟩
  · rintro ⟨form, admits, rfl⟩
    cases form with
    | bare =>
      have admits : count < 0xfd := admits
      have alone : (readAfter count).Spells [] count := by
        rw [readAfter, if_pos admits]
        exact Reader.spells_pure_iff.mpr ⟨rfl, rfl⟩
      exact spells_read_of_first (by omega) alone
    | two =>
      have field : (readAfter 0xfd).Spells (Endian.ofNat 2 count) count :=
        Reader.spells_number_iff.mpr ⟨admits, rfl⟩
      exact spells_read_of_first (by decide) field
    | four =>
      have field : (readAfter 0xfe).Spells (Endian.ofNat 4 count) count :=
        Reader.spells_number_iff.mpr ⟨admits, rfl⟩
      exact spells_read_of_first (by decide) field
    | eight =>
      have field : (readAfter 0xff).Spells (Endian.ofNat 8 count) count :=
        Reader.spells_number_iff.mpr ⟨admits, rfl⟩
      exact spells_read_of_first (by decide) field

theorem refusal?_count_eq_none_iff :
    (NumberField.unsigned 8 count).refusal? = none ↔ count < 0x10000000000000000 := by
  rw [NumberField.unsigned_fits_iff]
  constructor
  · rintro ⟨number, small, same⟩
    obtain rfl := Int.ofNat_inj.mp same
    exact small
  · intro fits
    exact ⟨count, fits, rfl⟩

theorem guarded_count_of_fits (fits : count < 0x10000000000000000) (result : Bytes) :
    guarded [.unsigned 8 count] result = .ok result := by
  refine guarded_eq_ok_iff.mpr ⟨?_, rfl⟩
  rw [List.forall_mem_singleton, refusal?_count_eq_none_iff]
  exact fits

/-- A count is written in its narrowest form. -/
theorem encode_eq_guarded (count : Nat) :
    encode count = guarded [.unsigned 8 count] ((Form.narrowest count).write count) := by
  unfold encode Form.narrowest
  rw [if_neg (by omega), Int.toNat_natCast]
  by_cases bare : count < 0xfd
  · rw [if_pos (by omega), if_pos bare, guarded_count_of_fits (by omega)]
    rfl
  · rw [if_neg (by omega), if_neg bare]
    by_cases two : count < 0x10000
    · rw [if_pos (by omega), if_pos two, guarded_count_of_fits (by omega)]
      rfl
    · rw [if_neg (by omega), if_neg two]
      by_cases four : count < 0x100000000
      · rw [if_pos (by omega), if_pos four, guarded_count_of_fits (by omega)]
        rfl
      · rw [if_neg (by omega), if_neg four, unsigned_eq_guarded, guarded_map]
        rfl

end CompactSize

variable {α : Type} {bytes : Bytes}

theorem local_readSized : readSized.Local :=
  CompactSize.local_read.bind Reader.local_take

theorem spells_readSized_iff {raw : Bytes} :
    readSized.Spells raw bytes ↔
      ∃ form : CompactSize.Form, bytes.length < form.limit ∧
        raw = form.write bytes.length ++ bytes := by
  unfold readSized
  rw [CompactSize.local_read.spells_bind_iff Reader.local_take]
  constructor
  · rintro ⟨length, front, back, rfl, counted, taken⟩
    obtain ⟨form, admits, rfl⟩ := CompactSize.spells_read_iff.mp counted
    obtain ⟨rfl, rfl⟩ := Reader.spells_take_iff.mp taken
    exact ⟨form, admits, rfl⟩
  · rintro ⟨form, admits, rfl⟩
    exact ⟨_, _, _, rfl, CompactSize.spells_read_iff.mpr ⟨form, admits, rfl⟩,
      Reader.spells_take_iff.mpr ⟨rfl, rfl⟩⟩

theorem sized_eq_guarded (bytes : Bytes) :
    sized bytes =
      guarded [.unsigned 8 bytes.length]
        ((CompactSize.Form.narrowest bytes.length).write bytes.length ++ bytes) := by
  unfold sized
  rw [CompactSize.encode_eq_guarded]
  simp only [pure_eq_guarded, guarded_bind, List.append_nil]

theorem local_readCounted {reader : Reader α} (each : reader.Local) : (readCounted reader).Local :=
  CompactSize.local_read.bind fun count => each.many count

/-- Items are read behind their number in any form. -/
theorem spells_readCounted_iff {reader : Reader α} (each : reader.Local) {values : List α} :
    (readCounted reader).Spells bytes values ↔
      ∃ (form : CompactSize.Form) (parts : List Bytes), values.length < form.limit ∧
        bytes = form.write values.length ++ parts.flatten ∧
        List.Forall₂ reader.Spells parts values := by
  unfold readCounted
  rw [CompactSize.local_read.spells_bind_iff fun count => each.many count]
  constructor
  · rintro ⟨count, front, back, rfl, counted, spells⟩
    obtain ⟨form, admits, rfl⟩ := CompactSize.spells_read_iff.mp counted
    obtain ⟨parts, rfl, rfl, spelled⟩ := each.spells_many_iff.mp spells
    rw [spelled.length_eq] at admits ⊢
    exact ⟨form, parts, admits, rfl, spelled⟩
  · rintro ⟨form, parts, admits, rfl, spelled⟩
    exact ⟨_, _, _, rfl, CompactSize.spells_read_iff.mpr ⟨form, admits, rfl⟩,
      each.spells_many_iff.mpr ⟨parts, rfl, spelled.length_eq, spelled⟩⟩

theorem counted_eq_guarded {encode : α → Except RangeError Bytes} {fields : α → List NumberField}
    {write : α → Bytes} (each : ∀ item, encode item = guarded (fields item) (write item))
    (items : List α) :
    counted encode items =
      guarded (.unsigned 8 items.length :: items.flatMap fields)
        ((CompactSize.Form.narrowest items.length).write items.length ++ items.flatMap write) := by
  unfold counted
  rw [CompactSize.encode_eq_guarded, funext each, mapM_guarded]
  simp only [pure_eq_guarded, guarded_bind, List.append_nil, List.flatMap_def, List.cons_append,
    List.nil_append]

end SwapWatch.Wire
