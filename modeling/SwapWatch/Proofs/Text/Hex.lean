import Mathlib.Data.List.DropRight
import SwapWatch.Text.Hex

/-!
# The grammar of hexadecimal text

Hexadecimal text consists of pairs of digits with ASCII blanks between them, and is read as what it
writes. Letter case and blanks at the ends do not matter. A text that people type may in addition
have one mark in front; it spells no bytes at all only when nothing but the mark is left of it.
-/

set_option autoImplicit false

namespace SwapWatch.Hex

/-- The characters are pairs of digits, one for each byte, with blanks between the pairs. -/
inductive Writes : List Char → Bytes → Prop where
  | nil : Writes [] []
  | gap {char : Char} {chars : List Char} {bytes : Bytes} :
      isGap char = true → Writes chars bytes → Writes (char :: chars) bytes
  | pair {high low : Char} {top bottom : Nat} {chars : List Char} {bytes : Bytes} :
      digit? high = some top → digit? low = some bottom → Writes chars bytes →
      Writes (high :: low :: chars) (UInt8.ofNat (16 * top + bottom) :: bytes)

theorem digit?_cases {char : Char} {value : Nat} (digit : digit? char = some value) :
    (48 ≤ char.toNat ∧ char.toNat ≤ 57) ∨ (97 ≤ char.toNat ∧ char.toNat ≤ 102) ∨
      (65 ≤ char.toNat ∧ char.toNat ≤ 70) := by
  unfold digit? at digit
  split at digit
  · next bounds => exact .inl ⟨UInt32.le_iff_toNat_le.mp bounds.1, UInt32.le_iff_toNat_le.mp bounds.2⟩
  · split at digit
    · next bounds =>
      exact .inr (.inl ⟨UInt32.le_iff_toNat_le.mp bounds.1, UInt32.le_iff_toNat_le.mp bounds.2⟩)
    · split at digit
      · next bounds =>
        exact .inr (.inr ⟨UInt32.le_iff_toNat_le.mp bounds.1, UInt32.le_iff_toNat_le.mp bounds.2⟩)
      · cases digit

theorem isGap_cases {char : Char} (gap : isGap char = true) :
    char.toNat = 32 ∨ 9 ≤ char.toNat ∧ char.toNat ≤ 13 := by
  simp only [isGap, Bool.or_eq_true, Bool.and_eq_true, decide_eq_true_eq] at gap
  cases gap with
  | inl space => exact .inl (congrArg Char.toNat space)
  | inr control => exact .inr control

theorem isBlank_of_isGap {char : Char} (gap : isGap char = true) : Text.isBlank char = true := by
  have bounds := isGap_cases gap
  simp only [Text.isBlank, Bool.or_eq_true, Bool.and_eq_true, decide_eq_true_eq, beq_iff_eq]
  omega

theorem not_isBlank_of_digit {char : Char} {value : Nat} (digit : digit? char = some value) :
    Text.isBlank char = false := by
  have bounds := digit?_cases digit
  simp only [Text.isBlank, Bool.or_eq_false_iff, Bool.and_eq_false_iff, decide_eq_false_iff_not,
    beq_eq_false_iff_ne]
  omega

theorem not_isGap_of_digit {char : Char} {value : Nat} (digit : digit? char = some value) :
    isGap char = false := by
  cases gap : isGap char with
  | false => rfl
  | true =>
    have blank := isBlank_of_isGap gap
    rw [not_isBlank_of_digit digit] at blank
    cases blank

theorem Writes.ascii {chars : List Char} {bytes : Bytes} (written : Writes chars bytes) :
    ∀ char ∈ chars, char.toNat < 128 := by
  induction written with
  | nil => simp
  | gap gap _ ih =>
    have bounds := isGap_cases gap
    exact List.forall_mem_cons.mpr ⟨by omega, ih⟩
  | pair high low _ ih =>
    have highBounds := digit?_cases high
    have lowBounds := digit?_cases low
    exact List.forall_mem_cons.mpr ⟨by omega, List.forall_mem_cons.mpr ⟨by omega, ih⟩⟩

theorem decodeFrom_gap {char : Char} (gap : isGap char = true) (position : Nat)
    (chars : List Char) : decodeFrom position (char :: chars) = decodeFrom (position + 1) chars := by
  rw [decodeFrom.eq_def]
  exact if_pos gap

theorem decodeFrom_pair {high low : Char} {top bottom : Nat} (highDigit : digit? high = some top)
    (lowDigit : digit? low = some bottom) (position : Nat) (chars : List Char) :
    decodeFrom position (high :: low :: chars) =
      (decodeFrom (position + 2) chars).map (UInt8.ofNat (16 * top + bottom) :: ·) := by
  rw [decodeFrom.eq_def]
  simp only [not_isGap_of_digit highDigit, highDigit, lowDigit]
  cases decodeFrom (position + 2) chars <;> rfl

theorem decodeFrom_eq_ok_iff {position : Nat} {chars : List Char} {bytes : Bytes} :
    decodeFrom position chars = .ok bytes ↔ Writes chars bytes := by
  constructor
  · intro read
    fun_induction decodeFrom position chars generalizing bytes with
    | case1 => cases read; exact .nil
    | case2 position high chars gap ih => exact .gap gap (ih read)
    | case3 => cases read
    | case4 => cases read
    | case5 => cases read
    | case6 position high gap top low chars highDigit bottom lowDigit ih =>
      cases rest : decodeFrom (position + 2) chars with
      | error flaw => rw [rest] at read; cases read
      | ok others =>
        rw [rest] at read
        cases read
        exact .pair highDigit lowDigit (ih rest)
  · intro written
    induction written generalizing position with
    | nil => rfl
    | gap gap _ ih => rw [decodeFrom_gap gap, ih]
    | pair high low _ ih =>
      rw [decodeFrom_pair high low, ih]
      rfl

/-- A text is read as what it writes. -/
theorem decode_eq_ok_iff {text : String} {bytes : Bytes} :
    decode text = .ok bytes ↔ Writes text.toList bytes := by
  unfold decode
  cases found : text.toList.findIdx? (fun char => 128 ≤ char.toNat) with
  | none => exact decodeFrom_eq_ok_iff
  | some position =>
    constructor
    · intro read
      cases read
    · intro written
      have none : text.toList.findIdx? (fun char => 128 ≤ char.toNat) = none := by
        rw [List.findIdx?_eq_none_iff]
        intro char member
        simpa using written.ascii char member
      rw [none] at found
      cases found

theorem digit?_digit {value : Nat} (small : value < 16) : digit? (digit value) = some value := by
  have all : ∀ value : Fin 16, digit? (digit value) = some value.val := by decide
  exact all ⟨value, small⟩

namespace Writes

theorem digits (bytes : Bytes) : Writes (digits bytes) bytes := by
  induction bytes with
  | nil => exact .nil
  | cons byte bytes ih =>
    have high : byte.toNat / 16 < 16 := by
      have small := byte.toNat_lt
      omega
    have both : UInt8.ofNat (16 * (byte.toNat / 16) + byte.toNat % 16) = byte := by
      rw [Nat.div_add_mod, UInt8.ofNat_toNat]
    have written := Writes.pair (digit?_digit high)
      (digit?_digit (Nat.mod_lt byte.toNat (by decide))) ih
    rwa [both] at written

theorem unique {chars : List Char} {bytes bytes' : Bytes} (written : Writes chars bytes)
    (written' : Writes chars bytes') : bytes = bytes' := by
  have read : decodeFrom 0 chars = .ok bytes := decodeFrom_eq_ok_iff.mpr written
  rw [decodeFrom_eq_ok_iff.mpr written', Except.ok.injEq] at read
  exact read.symm

private theorem digit?_toLower {char : Char} (ascii : char.toNat < 128) :
    digit? char.toLower = digit? char := by
  have all : ∀ code : Fin 128, digit? (Char.ofNat code).toLower = digit? (Char.ofNat code) := by
    decide
  have found := all ⟨char.toNat, ascii⟩
  rwa [Char.ofNat_toNat] at found

private theorem isGap_toLower {char : Char} (ascii : char.toNat < 128) :
    isGap char.toLower = isGap char := by
  have all : ∀ code : Fin 128, isGap (Char.ofNat code).toLower = isGap (Char.ofNat code) := by
    decide
  have found := all ⟨char.toNat, ascii⟩
  rwa [Char.ofNat_toNat] at found

theorem lowered {chars : List Char} {bytes : Bytes} (written : Writes chars bytes) :
    Writes (chars.map Char.toLower) bytes := by
  induction written with
  | nil => exact .nil
  | gap gap _ ih =>
    have bounds := isGap_cases gap
    exact .gap ((isGap_toLower (by omega)).trans gap) ih
  | pair high low _ ih =>
    have highBounds := digit?_cases high
    have lowBounds := digit?_cases low
    exact .pair ((digit?_toLower (by omega)).trans high) ((digit?_toLower (by omega)).trans low) ih

theorem dropBlanks {chars : List Char} {bytes : Bytes} (written : Writes chars bytes) :
    Writes (chars.dropWhile Text.isBlank) bytes := by
  induction written with
  | nil => exact .nil
  | gap gap _ ih =>
    rw [List.dropWhile_cons_of_pos (isBlank_of_isGap gap)]
    exact ih
  | pair high low rest _ =>
    rw [List.dropWhile_cons_of_neg (by simp [not_isBlank_of_digit high])]
    exact .pair high low rest

theorem dropLast {front : List Char} {last : Char} {bytes : Bytes}
    (written : Writes (front ++ [last]) bytes) (blank : Text.isBlank last = true) :
    Writes front bytes := by
  generalize whole : front ++ [last] = chars at written
  induction written generalizing front with
  | nil => simp at whole
  | gap gap rest ih =>
    cases front with
    | nil =>
      cases whole
      exact rest
    | cons first front =>
      obtain ⟨rfl, tail⟩ := List.cons_eq_cons.mp whole
      exact .gap gap (ih tail)
  | pair high low rest ih =>
    cases front with
    | nil => cases whole
    | cons first front =>
      obtain ⟨rfl, tail⟩ := List.cons_eq_cons.mp whole
      cases front with
      | nil =>
        cases tail
        rw [not_isBlank_of_digit low] at blank
        cases blank
      | cons second front =>
        obtain ⟨rfl, others⟩ := List.cons_eq_cons.mp tail
        exact .pair high low (ih others)

theorem dropLastBlanks {chars : List Char} {bytes : Bytes} (written : Writes chars bytes) :
    Writes (chars.rdropWhile Text.isBlank) bytes := by
  induction chars using List.reverseRecOn with
  | nil => exact written
  | append_singleton front last ih =>
    by_cases blank : Text.isBlank last = true
    · rw [List.rdropWhile_concat_pos _ _ _ blank]
      exact ih (written.dropLast blank)
    · rw [List.rdropWhile_concat_neg _ _ _ blank]
      exact written

theorem trimmed {chars : List Char} {bytes : Bytes} (written : Writes chars bytes) :
    Writes (Text.trimWith Text.isBlank chars) bytes :=
  written.dropBlanks.dropLastBlanks

/-- What writes bytes has no mark in front. -/
theorem unmarked {text : String} {bytes : Bytes} (written : Writes text.toList bytes) :
    dropMark text = text := by
  unfold dropMark
  split
  · next mark chars start =>
    rw [start] at written
    cases written with
    | gap gap _ => exact absurd gap (by decide)
    | pair _ low _ =>
      have noMark : ¬ (mark = 'x' ∨ mark = 'X') := by
        intro marked
        cases marked with
        | inl lower => subst lower; exact absurd low (by simp [digit?])
        | inr upper => subst upper; exact absurd low (by simp [digit?])
      rw [if_neg noMark]
  · rfl

theorem blank_of_nil {chars : List Char} (written : Writes chars []) :
    ∀ char ∈ chars, Text.isBlank char = true := by
  generalize none : ([] : Bytes) = bytes at written
  induction written with
  | nil => simp
  | gap gap _ ih => exact List.forall_mem_cons.mpr ⟨isBlank_of_isGap gap, ih none⟩
  | pair => cases none

end Writes

/-- No blanks are left at the end of a trimmed text. -/
theorem eq_nil_of_trimWith {drop : Char → Bool} {chars front back : List Char}
    (cut : Text.trimWith drop chars = front ++ back) (dropped : ∀ char ∈ back, drop char = true) :
    back = [] := by
  cases List.eq_nil_or_concat back with
  | inl none => exact none
  | inr some_last =>
    obtain ⟨others, last, rfl⟩ := some_last
    have kept : (chars.dropWhile drop).rdropWhile drop = front ++ others ++ [last] := by
      rw [List.append_assoc, ← List.concat_eq_append]
      exact cut
    have nonempty : (chars.dropWhile drop).rdropWhile drop ≠ [] := by
      rw [kept]
      simp
    have stays := List.rdropWhile_last_not drop _ nonempty
    simp only [kept, List.getLast_append_singleton] at stays
    exact absurd (dropped last (by simp)) stays

/-- The text, without blanks around it and then without one mark in front, is hexadecimal text of
the bytes. -/
def Spells (text : String) (bytes : Bytes) : Prop :=
  Writes (dropMark (Text.trim text)).toList bytes

namespace Spells

theorem unique {text : String} {bytes bytes' : Bytes} (spelled : Spells text bytes)
    (spelled' : Spells text bytes') : bytes = bytes' :=
  Writes.unique spelled spelled'

theorem of_writes {text : String} {bytes : Bytes} (written : Writes text.toList bytes) :
    Spells text bytes := by
  have trimmed : Writes (Text.trim text).toList bytes := by
    rw [Text.trim, String.toList_ofList]
    exact written.trimmed
  rw [Spells, trimmed.unmarked]
  exact trimmed

/-- A text spells no bytes when nothing, or nothing but the mark, stands between its blanks. -/
theorem nil_iff {text : String} :
    Spells text [] ↔ Text.trim text = "" ∨ Text.trim text = "0x" ∨ Text.trim text = "0X" := by
  constructor
  · intro spelled
    have chars : (Text.trim text).toList = Text.trimWith Text.isBlank text.toList :=
      String.toList_ofList
    unfold Spells dropMark at spelled
    split at spelled
    · next mark rest start =>
      by_cases marked : mark = 'x' ∨ mark = 'X'
      · rw [if_pos marked, String.toList_ofList] at spelled
        have whole : Text.trimWith Text.isBlank text.toList = ['0', mark] ++ rest :=
          chars.symm.trans start
        rw [eq_nil_of_trimWith whole spelled.blank_of_nil] at start
        rw [← String.toList_inj, ← String.toList_inj, ← String.toList_inj, start]
        cases marked with
        | inl lower => subst lower; exact .inr (.inl rfl)
        | inr upper => subst upper; exact .inr (.inr rfl)
      · rw [if_neg marked, start] at spelled
        exact absurd (spelled.blank_of_nil '0' (.head _)) (by decide)
    · have whole : Text.trimWith Text.isBlank text.toList = [] ++ (Text.trim text).toList := by
        rw [List.nil_append, chars]
      have none := eq_nil_of_trimWith whole spelled.blank_of_nil
      exact .inl (String.toList_eq_nil_iff.mp none)
  · intro bare
    unfold Spells
    rcases bare with empty | lower | upper
    · rw [empty]
      exact .nil
    · rw [lower]
      exact .nil
    · rw [upper]
      exact .nil

end Spells

end SwapWatch.Hex
