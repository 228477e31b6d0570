import SwapWatch.Json.Printer
import SwapWatch.Json.Reader

/-!
# Whole numbers in JSON text

The digits of a whole number are read back as this number, given that there are not too many of them
and that a value ends behind them.
-/

set_option autoImplicit false

namespace SwapWatch

namespace Text.Number

theorem head_toDigits_ne_zero {value : Nat} (positive : 0 < value) (others : List Char) :
    Nat.toDigits 10 value ≠ '0' :: others := by
  induction value using Nat.strongRecOn generalizing others with
  | ind value ih =>
    rw [Nat.toDigits_eq_if (by decide)]
    split
    · next small =>
      have all : ∀ value : Fin 10, 0 < value.val → Nat.digitChar value ≠ '0' := by decide
      intro digits
      exact all ⟨value, small⟩ positive (List.cons_eq_cons.mp digits).1
    · next large =>
      intro digits
      cases front : Nat.toDigits 10 (value / 10) with
      | nil => exact Nat.toDigits_ne_nil front
      | cons first more =>
        rw [front, List.cons_append] at digits
        rw [(List.cons_eq_cons.mp digits).1] at front
        exact ih (value / 10) (by omega) (by omega) more front

theorem filterMap_digit? {digits : List Char} (digit : ∀ char ∈ digits, char.isDigit = true) :
    digits.filterMap digit? = digits.map (·.toNat - 48) := by
  induction digits with
  | nil => rfl
  | cons char chars ih =>
    have value : digit? char = some (char.toNat - 48) := if_pos (digit char (.head _))
    rw [List.filterMap_cons_some value, List.map_cons,
      ih fun other member => digit other (.tail char member)]

theorem spanDigits_eq {digits : List Char} (digit : ∀ char ∈ digits, char.isDigit = true) :
    spanDigits digits = (digits.map (·.toNat - 48), []) := by
  rw [← List.append_nil digits, spanDigits, List.takeWhile_append_of_pos digit,
    List.dropWhile_append_of_pos digit, List.takeWhile_nil, List.append_nil, filterMap_digit? digit]
  rfl

theorem ofDigits_map (digits : List Char) :
    ofDigits (digits.map (·.toNat - 48)) = Nat.ofDigitChars 10 digits 0 := by
  rw [ofDigits, List.foldl_map]
  rfl

theorem spanDigits_toDigits (value : Nat) :
    ∃ digits, spanDigits (Nat.toDigits 10 value) = (digits, []) ∧
      digits.length = (Nat.toDigits 10 value).length ∧ ofDigits digits = value := by
  have digit (char : Char) (member : char ∈ Nat.toDigits 10 value) : char.isDigit = true :=
    Nat.isDigit_of_mem_toDigits (by decide) (by decide) member
  refine ⟨_, spanDigits_eq digit, List.length_map _, ?_⟩
  rw [ofDigits_map, Nat.ofDigitChars_toDigits (by decide) (by decide)]

end Text.Number

namespace Json.Reader

open Text (Points)
open Text.Number

/-- The digits in front of a point, as far as they belong to the number. -/
theorem whole_toDigits (value : Nat) :
    ∃ digits, (match Nat.toDigits 10 value with
      | '0' :: rest => ([0], rest)
      | chars => spanDigits chars) = (digits, []) ∧
      digits.length = (Nat.toDigits 10 value).length ∧ ofDigits digits = value := by
  cases Nat.eq_zero_or_pos value with
  | inl zero =>
    subst zero
    exact ⟨[0], rfl, rfl, rfl⟩
  | inr positive =>
    obtain ⟨digits, read, length, sum⟩ := spanDigits_toDigits value
    refine ⟨digits, ?_, length, sum⟩
    rw [← read]
    split
    · next more start => exact absurd start (head_toDigits_ne_zero positive more)
    · rfl

theorem number_toDigits (negative : Bool) {value : Nat}
    (short : (Nat.toDigits 10 value).length ≤ maxDigits) :
    number negative (Nat.toDigits 10 value) =
      .ok (.int (if negative then -(value : Int) else value), []) := by
  obtain ⟨digits, read, length, sum⟩ := whole_toDigits value
  have nonempty : digits.isEmpty = false := by
    have positive := List.length_pos_iff.mpr (Nat.toDigits_ne_nil (n := value) (b := 10))
    cases digits with
    | nil => rw [← length] at positive; cases positive
    | cons _ _ => rfl
  unfold number
  split
  next whole behind span =>
  obtain ⟨rfl, rfl⟩ := Prod.mk.inj (span.symm.trans read)
  simp [nonempty, fraction, exponent?, length, Nat.not_lt.mpr short, sum]

/-- Too many digits are reported with their count. A zero in front would stand alone. -/
theorem number_oversized (negative : Bool) {first : Char} {others : List Char}
    (each : ∀ char ∈ first :: others, char.isDigit = true) (nonzero : first ≠ '0')
    (long : maxDigits < (first :: others).length) :
    number negative (first :: others) = .error (.digits (first :: others).length) := by
  have whole : (match first :: others with
      | '0' :: rest => ([0], rest)
      | chars => spanDigits chars) = ((first :: others).map (·.toNat - 48), []) := by
    split
    · next start => exact absurd (List.cons_eq_cons.mp start).1 nonzero
    · exact spanDigits_eq each
  unfold number
  split
  next found behind read =>
  obtain ⟨rfl, rfl⟩ := Prod.mk.inj (read.symm.trans whole)
  simp [fraction, exponent?, List.length_cons ▸ long]

theorem constant?_digit {first : Char} (digit : first.isDigit = true) (others : List Char) :
    constant? (first :: others) = none := by
  have differs (char : Char) (other : char.isDigit = false) : (char == first) = false := by
    rw [beq_eq_false_iff_ne]
    intro same
    rw [same, digit] at other
    cases other
  simp [constant?, word?, List.isPrefixOf, differs]

theorem constant?_minus {first : Char} (digit : first.isDigit = true) (others : List Char) :
    constant? ('-' :: first :: others) = none := by
  have differs : ('I' == first) = false := by
    rw [beq_eq_false_iff_ne]
    intro same
    rw [← same] at digit
    cases digit
  simp [constant?, word?, List.isPrefixOf, differs]

theorem exists_digit (value : Nat) :
    ∃ first others, Nat.toDigits 10 value = first :: others ∧ first.isDigit = true := by
  cases written : Nat.toDigits 10 value with
  | nil => exact absurd written Nat.toDigits_ne_nil
  | cons first others =>
    have member : first ∈ Nat.toDigits 10 value := written ▸ .head _
    exact ⟨first, others, rfl, Nat.isDigit_of_mem_toDigits (by decide) (by decide) member⟩

theorem toList_ofNat (size : Nat) : (toString (Int.ofNat size)).toList = Nat.toDigits 10 size :=
  Nat.toList_repr

theorem toList_negSucc (size : Nat) :
    (toString (Int.negSucc size)).toList = '-' :: Nat.toDigits 10 (size + 1) := by
  change ("-" ++ (size + 1).repr).toList = _
  rw [String.toList_append, Nat.toList_repr]
  rfl

theorem minus_or_digit {value : Int} {char : Char} (member : char ∈ (toString value).toList) :
    char = '-' ∨ char.isDigit = true := by
  cases value with
  | ofNat size =>
    rw [toList_ofNat] at member
    exact .inr (Nat.isDigit_of_mem_toDigits (by decide) (by decide) member)
  | negSucc size =>
    rw [toList_negSucc, List.mem_cons] at member
    exact member.imp_right (Nat.isDigit_of_mem_toDigits (by decide) (by decide))

theorem exists_start (value : Int) :
    ∃ first others, (toString value).toList = first :: others ∧
      (first = '-' ∨ first.isDigit = true) := by
  cases value with
  | ofNat size =>
    obtain ⟨first, others, written, digit⟩ := exists_digit size
    exact ⟨first, others, (toList_ofNat size).trans written, .inr digit⟩
  | negSucc size => exact ⟨'-', _, toList_negSucc size, .inl rfl⟩

theorem atomIn_int {value : Int} (short : isShort value = true) :
    atomIn (toString value).toList = .ok (.int value, []) := by
  have short : (Nat.toDigits 10 value.natAbs).length ≤ maxDigits := of_decide_eq_true short
  obtain ⟨first, others, written, digit⟩ := exists_digit value.natAbs
  cases value with
  | ofNat size =>
    have read := number_toDigits false short
    change Nat.toDigits 10 size = _ at written
    change number false (Nat.toDigits 10 size) = .ok (.int size, []) at read
    rw [written] at read
    rw [toList_ofNat, written, atomIn.eq_def, constant?_digit digit]
    split
    · next found => cases found
    · next start =>
      cases start
      cases digit
    · exact read
  | negSucc size =>
    have read := number_toDigits true short
    change Nat.toDigits 10 (size + 1) = _ at written
    change number true (Nat.toDigits 10 (size + 1)) = .ok (.int (Int.negSucc size), []) at read
    rw [written] at read
    rw [toList_negSucc, written, atomIn.eq_def, constant?_minus digit]
    exact read

theorem atomIn_oversized {first : Char} {others : List Char}
    (each : ∀ char ∈ first :: others, char.isDigit = true) (nonzero : first ≠ '0')
    (long : maxDigits < (first :: others).length) :
    atomIn (first :: others) = .error (.digits (first :: others).length) := by
  have digit := each first List.mem_cons_self
  rw [atomIn.eq_def, constant?_digit digit]
  split
  · next found => cases found
  · next start =>
    cases start
    cases digit
  · exact number_oversized false each nonzero long

/-! ## Where a number ends -/

/-- A value may end in front of these points. -/
def Stops : Points → Prop
  | [] => True
  | point :: _ => point = .char ',' ∨ point = .char ']' ∨ point = .char '\x7d'

namespace Stops

theorem nil : Stops [] := True.intro

theorem comma (rest : Points) : Stops (.char ',' :: rest) := .inl rfl

theorem bracket (rest : Points) : Stops (.char ']' :: rest) := .inr (.inl rfl)

theorem brace (rest : Points) : Stops (.char '\x7d' :: rest) := .inr (.inr rfl)

end Stops

theorem isAtomic_of_digit {char : Char} (digit : char.isDigit = true) : isAtomic char = true := by
  simp [isAtomic, Char.isAlphanum, digit]

theorem atomChars_append {chars : List Char} (atomic : chars.all isAtomic = true) {rest : Points}
    (stops : Stops rest) : atomChars (chars.map .char ++ rest) = chars := by
  induction chars with
  | nil =>
    cases rest with
    | nil => rfl
    | cons point rest => rcases stops with rfl | rfl | rfl <;> rfl
  | cons char chars ih =>
    rw [List.all_cons, Bool.and_eq_true] at atomic
    obtain ⟨first, others⟩ := atomic
    rw [List.map_cons, List.cons_append, atomChars, if_pos first, ih others]

theorem atom_append {chars : List Char} (atomic : chars.all isAtomic = true) {value : Json}
    (read : atomIn chars = .ok (value, [])) {rest : Points} (stops : Stops rest) :
    atom (chars.map .char ++ rest) = .ok (value, rest) := by
  rw [atom, atomChars_append atomic stops, read]
  change Except.ok (value, List.drop _ _) = _
  have length : (chars.map Text.Point.char).length = chars.length := List.length_map _
  rw [List.length_nil, Nat.sub_zero, ← length, List.drop_left]

theorem isAtomic_toString (value : Int) : (toString value).toList.all isAtomic = true := by
  rw [List.all_eq_true]
  intro char member
  cases minus_or_digit member with
  | inl minus => subst minus; rfl
  | inr digit => exact isAtomic_of_digit digit

end Json.Reader

end SwapWatch
