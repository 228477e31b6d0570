import SwapWatch.Text.Encoding

/-!
# Text from its own bytes

The UTF-8 bytes of characters are read back as these characters. A text without zero characters has
no zero bytes, so its encoding is found out, and unless a byte order mark stands in front it is read
back as a whole.
-/

set_option autoImplicit false

namespace SwapWatch.Text

def Nonzero (chars : List Char) : Prop :=
  ∀ char ∈ chars, 0 < char.toNat

instance (chars : List Char) : Decidable (Nonzero chars) :=
  List.decidableBAll (p := fun char : Char => 0 < char.toNat) chars

namespace Utf8

def encode (chars : List Char) : Bytes :=
  chars.flatMap String.utf8EncodeChar

theorem toNat_byte {value : Nat} (byte : value < 0x100) : (UInt8.ofNat value).toNat = value :=
  UInt8.toNat_ofNat_of_lt byte

theorem next_of_small {value : Nat} (small : value < 0x80) (bytes : Bytes) :
    next (UInt8.ofNat value) bytes = (some (Char.ofNat value), bytes) := by
  rw [next, toNat_byte (by omega), if_pos small]

theorem next_of_lead {byte : UInt8} {lead : Lead} (found : lead? byte.toNat = some lead)
    (bytes : Bytes) :
    next byte bytes = finish lead.bits lead.low lead.high lead.following bytes := by
  have wide : ¬ byte.toNat < 0x80 := by
    intro small
    unfold lead? at found
    rw [if_pos (by omega)] at found
    cases found
  rw [next, if_neg wide, found]

theorem finish_of_bounds {low high value : Nat} (byte : value < 0x100)
    (bounds : low ≤ value ∧ value ≤ high) (bits left : Nat) (bytes : Bytes) :
    finish bits low high (left + 1) (UInt8.ofNat value :: bytes) =
      finish (64 * bits + value % 64) 0x80 0xbf left bytes := by
  rw [finish, toNat_byte byte, if_pos bounds]

theorem next_two {value : Nat} (wide : 0x80 ≤ value) (small : value < 0x800) (bytes : Bytes) :
    next (UInt8.ofNat (value / 64 % 32 + 192)) (UInt8.ofNat (value % 64 + 128) :: bytes) =
      (some (Char.ofNat value), bytes) := by
  have lead : lead? (UInt8.ofNat (value / 64 % 32 + 192)).toNat =
      some ⟨value / 64 % 32 + 192 - 0xc0, 1, 0x80, 0xbf⟩ := by
    rw [toNat_byte (by omega), lead?, if_neg (by omega), if_pos (by omega)]
  have bits : 64 * (value / 64 % 32 + 192 - 0xc0) + (value % 64 + 128) % 64 = value := by omega
  have last : 0x80 ≤ value % 64 + 128 ∧ value % 64 + 128 ≤ 0xbf := by omega
  rw [next_of_lead lead, finish_of_bounds (by omega) last, finish, bits]

theorem next_three {value : Nat} (wide : 0x800 ≤ value) (small : value < 0x10000)
    (whole : ¬ (0xd800 ≤ value ∧ value < 0xe000)) (bytes : Bytes) :
    next (UInt8.ofNat (value / 4096 % 16 + 224)) (UInt8.ofNat (value / 64 % 64 + 128) ::
      UInt8.ofNat (value % 64 + 128) :: bytes) = (some (Char.ofNat value), bytes) := by
  have lead : lead? (UInt8.ofNat (value / 4096 % 16 + 224)).toNat =
      some ⟨value / 4096 % 16 + 224 - 0xe0, 2, if value / 4096 % 16 + 224 = 0xe0 then 0xa0 else 0x80,
        if value / 4096 % 16 + 224 = 0xed then 0x9f else 0xbf⟩ := by
    rw [toNat_byte (by omega), lead?, if_neg (by omega), if_neg (by omega), if_pos (by omega)]
  have second : (if value / 4096 % 16 + 224 = 0xe0 then 0xa0 else 0x80) ≤ value / 64 % 64 + 128 ∧
      value / 64 % 64 + 128 ≤ if value / 4096 % 16 + 224 = 0xed then 0x9f else 0xbf := by
    constructor
    · split <;> omega
    · split <;> omega
  have bits : 64 * (64 * (value / 4096 % 16 + 224 - 0xe0) + (value / 64 % 64 + 128) % 64) +
      (value % 64 + 128) % 64 = value := by omega
  rw [next_of_lead lead, finish_of_bounds (by omega) second,
    finish_of_bounds (by omega) (by omega), finish, bits]

theorem next_four {value : Nat} (wide : 0x10000 ≤ value) (small : value < 0x110000)
    (bytes : Bytes) :
    next (UInt8.ofNat (value / 262144 % 8 + 240)) (UInt8.ofNat (value / 4096 % 64 + 128) ::
      UInt8.ofNat (value / 64 % 64 + 128) :: UInt8.ofNat (value % 64 + 128) :: bytes) =
      (some (Char.ofNat value), bytes) := by
  have lead : lead? (UInt8.ofNat (value / 262144 % 8 + 240)).toNat =
      some ⟨value / 262144 % 8 + 240 - 0xf0, 3,
        if value / 262144 % 8 + 240 = 0xf0 then 0x90 else 0x80,
        if value / 262144 % 8 + 240 = 0xf4 then 0x8f else 0xbf⟩ := by
    rw [toNat_byte (by omega), lead?, if_neg (by omega), if_neg (by omega), if_neg (by omega),
      if_pos (by omega)]
  have second : (if value / 262144 % 8 + 240 = 0xf0 then 0x90 else 0x80) ≤
      value / 4096 % 64 + 128 ∧
      value / 4096 % 64 + 128 ≤ if value / 262144 % 8 + 240 = 0xf4 then 0x8f else 0xbf := by
    constructor
    · split <;> omega
    · split <;> omega
  have bits : 64 * (64 * (64 * (value / 262144 % 8 + 240 - 0xf0) +
      (value / 4096 % 64 + 128) % 64) + (value / 64 % 64 + 128) % 64) + (value % 64 + 128) % 64 =
        value := by omega
  rw [next_of_lead lead, finish_of_bounds (by omega) second,
    finish_of_bounds (by omega) (by omega), finish_of_bounds (by omega) (by omega), finish, bits]

/-- A character is read back from its bytes, whatever stands behind them. -/
theorem next_of_utf8EncodeChar (char : Char) :
    ∃ byte others, String.utf8EncodeChar char = byte :: others ∧
      ∀ bytes, next byte (others ++ bytes) = (some char, bytes) := by
  have valid : char.toNat < 0xd800 ∨ 0xdfff < char.toNat ∧ char.toNat < 0x110000 := char.valid
  have number : char.val.toNat = char.toNat := rfl
  have same : Char.ofNat char.toNat = char := Char.ofNat_toNat char
  unfold String.utf8EncodeChar
  simp only [number]
  split
  · refine ⟨_, _, rfl, fun bytes => (next_of_small (by omega) bytes).trans ?_⟩
    rw [same]
  split
  · refine ⟨_, _, rfl, fun bytes => (next_two (by omega) (by omega) bytes).trans ?_⟩
    rw [same]
  split
  · refine ⟨_, _, rfl, fun bytes => (next_three (by omega) (by omega) (by omega) bytes).trans ?_⟩
    rw [same]
  · refine ⟨_, _, rfl, fun bytes => (next_four (by omega) (by omega) bytes).trans ?_⟩
    rw [same]

theorem ne_zero_of_mem_utf8EncodeChar {char : Char} (nonzero : 0 < char.toNat) {byte : UInt8}
    (member : byte ∈ String.utf8EncodeChar char) : byte ≠ 0 := by
  have number : char.val.toNat = char.toNat := rfl
  have each {value : Nat} (positive : 0 < value) (small : value < 0x100) : UInt8.ofNat value ≠ 0 := by
    intro zero
    have found := toNat_byte small
    rw [zero] at found
    exact absurd found.symm (Nat.ne_of_gt positive)
  unfold String.utf8EncodeChar at member
  simp only [number] at member
  repeat' split at member
  all_goals
    simp only [List.mem_cons, List.not_mem_nil, or_false] at member
  · subst member
    exact each nonzero (by omega)
  · rcases member with rfl | rfl <;> exact each (by omega) (by omega)
  · rcases member with rfl | rfl | rfl <;> exact each (by omega) (by omega)
  · rcases member with rfl | rfl | rfl | rfl <;> exact each (by omega) (by omega)

end Utf8

namespace Encoding

theorem ofBytes_of_nonzero {bytes : Bytes} (nonzero : ∀ byte ∈ bytes, byte ≠ 0) :
    ofBytes bytes = .utf8 := by
  match bytes with
  | [] => rfl
  | [_] => rfl
  | [b0, b1] =>
    simp only [List.forall_mem_cons] at nonzero
    rw [ofBytes, if_neg nonzero.1, if_neg nonzero.2.1]
  | [_, _, _] => rfl
  | b0 :: b1 :: b2 :: b3 :: _ =>
    simp only [List.forall_mem_cons] at nonzero
    rw [ofBytes, if_neg nonzero.1, if_neg nonzero.2.1]

theorem narrow_encode (written : List Char) (start : Nat) :
    narrow start (Utf8.encode written) = .ok (written.map .char) := by
  induction written generalizing start with
  | nil => rw [Utf8.encode, List.flatMap_nil, narrow, List.map_nil]
  | cons char written ih =>
    obtain ⟨byte, others, bytes, read⟩ := Utf8.next_of_utf8EncodeChar char
    rw [Utf8.encode, List.flatMap_cons, bytes, List.cons_append, narrow, read]
    change (narrow _ (Utf8.encode written)).map (.char char :: ·) = _
    rw [ih]
    rfl

/-- A mark of UTF-8 would be the first character. The other marks start with a zero byte or with one
that UTF-8 does not have. -/
theorem mark?_encode {written : List Char} (nonzero : Nonzero written)
    (unmarked : Utf8.dropMark written = written) : mark? (Utf8.encode written) = none := by
  cases written with
  | nil => rfl
  | cons char written =>
    obtain ⟨byte, others, bytes, read⟩ := Utf8.next_of_utf8EncodeChar char
    have first := read (Utf8.encode written)
    have positive := nonzero char List.mem_cons_self
    have whole : Utf8.encode (char :: written) = byte :: (others ++ Utf8.encode written) := by
      rw [Utf8.encode, List.flatMap_cons, bytes, List.cons_append]
      rfl
    rw [whole, mark?, marks]
    simp only [List.find?_eq_none, List.forall_mem_cons, List.isPrefixOf_cons_cons, Bool.and_eq_true,
      beq_iff_eq]
    generalize others ++ Utf8.encode written = behind at first
    refine ⟨?_, ?_, ?_, ?_, ?_, List.forall_mem_nil _⟩
    · intro marked
      obtain ⟨rfl, -⟩ := marked
      cases first
      exact absurd positive (by decide)
    · intro marked
      obtain ⟨rfl, -⟩ := marked
      cases first
    · intro marked
      obtain ⟨rfl, -⟩ := marked
      cases first
    · intro marked
      obtain ⟨rfl, -⟩ := marked
      cases first
    · intro marked
      obtain ⟨rfl, others⟩ := marked
      obtain ⟨tail, rfl⟩ := List.isPrefixOf_iff_prefix.mp others
      have mark : Utf8.next 0xef ([0xbb, 0xbf] ++ tail) = (some (Char.ofNat 0xfeff), tail) := rfl
      have same : char = Char.ofNat 0xfeff :=
        Option.some.inj (congrArg Prod.fst (first.symm.trans mark))
      rw [same] at unmarked
      exact absurd (congrArg List.length unmarked) (Nat.ne_of_lt (Nat.lt_succ_self _))

/-- Characters other than zero, without a byte order mark in front, are read back from their UTF-8
bytes. -/
theorem decode_encode {chars : List Char} (nonzero : Nonzero chars)
    (unmarked : Utf8.dropMark chars = chars) :
    decode (Utf8.encode chars) = .ok (chars.map .char) := by
  have shown : ofBytes (Utf8.encode chars) = .utf8 := by
    apply ofBytes_of_nonzero
    intro byte member
    obtain ⟨char, charMember, byteMember⟩ := List.mem_flatMap.mp member
    exact Utf8.ne_zero_of_mem_utf8EncodeChar (nonzero char charMember) byteMember
  rw [decode, mark?_encode nonzero unmarked, shown]
  exact narrow_encode chars 0

end Encoding

end SwapWatch.Text
