import SwapWatch.Json.Printer
import SwapWatch.Json.Reader
import SwapWatch.Proofs.Text.Hex

/-!
# Strings in JSON text

A string is read back from its escapes, whether these are written for every character outside ASCII
or only where they must be. Only halves of surrogate pairs are left out: two of them written in a row
would be read as one character.
-/

set_option autoImplicit false

namespace SwapWatch

namespace Text

/-- No half of a surrogate pair stands in the text. -/
def Points.Whole (text : Points) : Prop :=
  ∀ point ∈ text, point.isHalf = false

theorem Points.whole_ofString (text : String) : Whole (ofString text) := by
  intro point member
  obtain ⟨char, -, rfl⟩ := List.mem_map.mp member
  rfl

namespace Point

/-- No character has the number of a half. -/
theorem not_half (char : Char) : ¬ (0xd800 ≤ char.toNat ∧ char.toNat < 0xe000) := by
  have valid : char.toNat < 0xd800 ∨ 0xdfff < char.toNat ∧ char.toNat < 0x110000 := char.valid
  omega

theorem ofUnit_toNat (char : Char) : ofUnit char.toNat = .char char := by
  rw [ofUnit, dif_neg (not_half char), Char.ofNat_toNat]

theorem join_halves {char : Char} (wide : 0x10000 ≤ char.toNat) :
    join (0xd800 + (char.toNat - 0x10000) / 0x400) (0xdc00 + (char.toNat - 0x10000) % 0x400) =
      .char char := by
  have whole : 0x10000 + 0x400 * (0xd800 + (char.toNat - 0x10000) / 0x400 - 0xd800) +
      (0xdc00 + (char.toNat - 0x10000) % 0x400 - 0xdc00) = char.toNat := by omega
  rw [join, whole, Char.ofNat_toNat]

theorem isHigh_half {char : Char} (wide : 0x10000 ≤ char.toNat) :
    isHigh (0xd800 + (char.toNat - 0x10000) / 0x400) = true := by
  have valid : char.toNat < 0xd800 ∨ 0xdfff < char.toNat ∧ char.toNat < 0x110000 := char.valid
  simp only [isHigh, Bool.and_eq_true, decide_eq_true_eq]
  omega

theorem isLow_half (above : Nat) : isLow (0xdc00 + above % 0x400) = true := by
  simp only [isLow, Bool.and_eq_true, decide_eq_true_eq]
  omega

end Point

end Text

namespace Json.Reader

open Text (Point Points)
open Text.Point

theorem hexDigits_nonzero (width value : Nat) :
    ∀ digit ∈ Text.Quoted.hexDigits width value, 0 < digit.toNat := by
  have all : ∀ value : Fin 16, 0 < (Hex.digit value).toNat := by decide
  induction width generalizing value with
  | zero => simp [Text.Quoted.hexDigits]
  | succ width ih =>
    intro digit member
    rw [Text.Quoted.hexDigits, List.mem_append, List.mem_singleton] at member
    cases member with
    | inl front => exact ih (value / 16) digit front
    | inr last =>
      subst last
      exact all ⟨value % 16, Nat.mod_lt value (by decide)⟩

variable (rest : Points)

theorem unit?_hexDigits {unit : Nat} (small : unit < 0x10000) :
    Reader.unit? ((Text.Quoted.hexDigits 4 unit).map .char ++ rest) = some (unit, rest) := by
  have digit (value : Nat) : Hex.digit? (Hex.digit (value % 16)) = some (value % 16) :=
    Hex.digit?_digit (Nat.mod_lt value (by decide))
  have sum : 4096 * (unit / 16 / 16 / 16 % 16) + 256 * (unit / 16 / 16 % 16) +
      16 * (unit / 16 % 16) + unit % 16 = unit := by omega
  simp [Text.Quoted.hexDigits, Reader.unit?, digit, sum]

theorem escapedUnits?_char {char : Char} (small : char.toNat < 0x10000) :
    escapedUnits? ((Text.Quoted.hexDigits 4 char.toNat).map .char ++ rest) =
      some (.char char, rest) := by
  have single : isHigh char.toNat = false := by
    have whole := not_half char
    simp only [isHigh, Bool.and_eq_false_iff, decide_eq_false_iff_not]
    omega
  have unpaired : (escapedLow? rest).filter (fun _ => isHigh char.toNat) = none := by
    rw [single]
    cases escapedLow? rest <;> rfl
  rw [escapedUnits?, unit?_hexDigits rest small, Option.bind_eq_bind, Option.bind_some]
  simp only [unpaired, ofUnit_toNat]

theorem escapedLow?_escapeUnit {low : Nat} (isLow_low : isLow low = true) :
    escapedLow? ((escapeUnit low).map .char ++ rest) = some (low, rest) := by
  have small : low < 0x10000 := by
    simp only [isLow, Bool.and_eq_true, decide_eq_true_eq] at isLow_low
    omega
  rw [escapeUnit, List.map_cons, List.map_cons, List.cons_append, List.cons_append, escapedLow?,
    unit?_hexDigits rest small]
  simp only [Option.filter_some, isLow_low, if_true]

/-- Two units that are escaped one after the other are joined. -/
theorem escapedUnits?_halves {high low : Nat} (isHigh_high : isHigh high = true)
    (isLow_low : isLow low = true) :
    escapedUnits? ((Text.Quoted.hexDigits 4 high).map .char ++ ((escapeUnit low).map .char ++ rest)) =
      some (join high low, rest) := by
  have small : high < 0x10000 := by
    simp only [isHigh, Bool.and_eq_true, decide_eq_true_eq] at isHigh_high
    omega
  rw [escapedUnits?, unit?_hexDigits _ small, Option.bind_eq_bind, Option.bind_some]
  simp only [escapedLow?_escapeUnit rest isLow_low, Option.filter_some, isHigh_high, if_true]

/-- What may stand for a character in a string. -/
inductive Stands (char : Char) : List Char → Prop where
  | letter {letter : Char} : simpleEscape? letter = some char → letter ≠ 'u' →
      Stands char ['\\', letter]
  | units {digits : List Char} : (∀ digit ∈ digits, 0 < digit.toNat) →
      (∀ rest, escapedUnits? (digits.map .char ++ rest) = some (.char char, rest)) →
      Stands char ('\\' :: 'u' :: digits)
  | itself : char ≠ '"' → char ≠ '\\' → 32 ≤ char.toNat → Stands char [char]

namespace Stands

theorem unit {char : Char} (small : char.toNat < 0x10000) :
    Stands char (escapeUnit char.toNat) :=
  .units (hexDigits_nonzero 4 char.toNat) fun rest => escapedUnits?_char rest small

theorem wide (char : Char) : Stands char (escapeWide char) := by
  unfold escapeWide
  split
  · next small => exact .unit small
  · next small =>
    have wide := Nat.le_of_not_lt small
    have read (rest : Points) :=
      escapedUnits?_halves rest (isHigh_half wide) (isLow_half (char.toNat - 0x10000))
    simp only [join_halves wide, ← List.append_assoc, ← List.map_append] at read
    refine .units ?_ read
    intro digit member
    change digit ∈ Text.Quoted.hexDigits 4 _ ++ '\\' :: 'u' :: Text.Quoted.hexDigits 4 _ at member
    rw [List.mem_append, List.mem_cons, List.mem_cons] at member
    rcases member with first | rfl | rfl | second
    · exact hexDigits_nonzero 4 _ digit first
    · decide
    · decide
    · exact hexDigits_nonzero 4 _ digit second

theorem escape (style : Style) (char : Char) : Stands char (escapeChar style char) := by
  unfold escapeChar
  split
  · next marked =>
    refine .letter ?_ ?_
    · rw [simpleEscape?, if_pos (marked.imp_right .inl)]
    · rcases marked with rfl | rfl <;> decide
  split
  · next newline => subst newline; exact .letter rfl (by decide)
  split
  · next carriage => subst carriage; exact .letter rfl (by decide)
  split
  · next tab => subst tab; exact .letter rfl (by decide)
  split
  · next back =>
    obtain rfl : char = Char.ofNat 8 := by rw [← back, Char.ofNat_toNat]
    exact .letter rfl (by decide)
  split
  · next feed =>
    obtain rfl : char = Char.ofNat 12 := by rw [← feed, Char.ofNat_toNat]
    exact .letter rfl (by decide)
  split
  · exact .unit (by omega)
  split
  · next marked _ _ _ _ _ control _ =>
    exact .itself (fun quote => marked (.inl quote)) (fun escaped => marked (.inr escaped))
      (Nat.le_of_not_lt control)
  · exact wide char

theorem length_pos {char : Char} {written : List Char} (stands : Stands char written) :
    0 < written.length := by
  cases stands <;> exact Nat.succ_pos _

theorem nonzero {char : Char} {written : List Char} (stands : Stands char written) :
    ∀ other ∈ written, 0 < other.toNat := by
  cases stands with
  | @letter letter escaped simple =>
    have positive : 0 < letter.toNat := by
      refine Nat.pos_of_ne_zero fun zero => ?_
      obtain rfl : letter = Char.ofNat 0 := by rw [← zero, Char.ofNat_toNat]
      cases escaped
    exact List.forall_mem_cons.mpr ⟨by decide, List.forall_mem_singleton.mpr positive⟩
  | units digits escaped =>
    exact List.forall_mem_cons.mpr ⟨by decide, List.forall_mem_cons.mpr ⟨by decide, digits⟩⟩
  | itself inside unescaped printed =>
    exact List.forall_mem_singleton.mpr (Nat.lt_of_lt_of_le (by decide) printed)

theorem text?_append {char : Char} {written : List Char} (stands : Stands char written)
    (fuel : Nat) (rest : Points) :
    text? (fuel + 1) (written.map .char ++ rest) =
      (text? fuel rest).map fun (value, rest) => (.char char :: value, rest) := by
  cases stands with
  | letter escaped simple =>
    simp only [List.map_cons, List.map_nil, List.cons_append, List.nil_append]
    rw [text?.eq_def]
    simp only [Char.reduceEq, Char.reduceToNat, Nat.reduceLT, if_false, if_true, escaped]
    cases text? fuel rest <;> rfl
  | units _ escaped =>
    simp only [List.map_cons, List.cons_append]
    rw [text?.eq_def]
    simp only [Char.reduceEq, Char.reduceToNat, Nat.reduceLT, if_false, if_true, escaped,
      Option.bind_eq_bind, Option.bind_some]
    cases text? fuel rest <;> rfl
  | itself inside unescaped printed =>
    simp only [List.map_cons, List.map_nil, List.cons_append, List.nil_append]
    rw [text?.eq_def]
    simp only [if_neg inside, if_neg unescaped, if_neg (Nat.not_lt.mpr printed)]
    cases text? fuel rest <;> rfl

end Stands

theorem text?_printed (style : Style) {text : Points} (whole : text.Whole) (fuel : Nat)
    (enough : text.length < fuel) :
    text? fuel (text.flatMap (escape style) ++ .char '"' :: rest) = some (text, rest) := by
  induction text generalizing fuel with
  | nil =>
    obtain ⟨fuel, rfl⟩ := Nat.exists_eq_add_one_of_ne_zero (Nat.ne_of_gt enough)
    rfl
  | cons point text ih =>
    obtain ⟨fuel, rfl⟩ := Nat.exists_eq_add_one_of_ne_zero (Nat.ne_zero_of_lt enough)
    obtain ⟨first, others⟩ := List.forall_mem_cons.mp whole
    cases point with
    | half half => cases first
    | char char =>
      rw [List.flatMap_cons, List.append_assoc, escape, (Stands.escape style char).text?_append,
        ih others fuel (Nat.lt_of_succ_lt_succ enough)]
      rfl

theorem length_le_flatMap_escape (style : Style) {text : Points} (whole : text.Whole) :
    text.length ≤ (text.flatMap (escape style)).length := by
  induction text with
  | nil => exact Nat.le_refl 0
  | cons point text ih =>
    obtain ⟨first, others⟩ := List.forall_mem_cons.mp whole
    have shorter := ih others
    cases point with
    | half half => cases first
    | char char =>
      have positive := (Stands.escape style char).length_pos
      rw [List.flatMap_cons, List.length_append, List.length_cons, escape, List.length_map]
      omega

/-- A string is read back from what is printed for it. -/
theorem string_printed (style : Style) {text : Points} (whole : text.Whole) :
    string (text.flatMap (escape style) ++ .char '"' :: rest) = .ok (text, rest) := by
  have enough := length_le_flatMap_escape style whole
  rw [string, text?_printed rest style whole _ (by
    rw [List.length_append]
    omega)]
  rfl

end Json.Reader

end SwapWatch
