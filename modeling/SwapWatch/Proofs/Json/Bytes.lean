import SwapWatch.Proofs.Json.RoundTrip
import SwapWatch.Proofs.Text.Utf8

/-!
# JSON text as bytes

Printed values hold no zero character and do not start with a byte order mark. Their UTF-8 bytes are
therefore taken for UTF-8 and read back.
-/

set_option autoImplicit false

namespace SwapWatch.Json

open Reader
open Text (Point Points)

variable {style : Style}

theorem forall_mem_intercalate {α : Type} {holds : α → Prop} {separator : List α}
    (between : ∀ item ∈ separator, holds item) {parts : List (List α)}
    (each : ∀ part ∈ parts, ∀ item ∈ part, holds item) :
    ∀ item ∈ separator.intercalate parts, holds item := by
  induction parts with
  | nil => exact List.forall_mem_nil _
  | cons part parts ih =>
    obtain ⟨first, others⟩ := List.forall_mem_cons.mp each
    cases parts with
    | nil =>
      rw [List.intercalate_singleton]
      exact first
    | cons next parts =>
      rw [List.intercalate_cons_cons, List.forall_mem_append, List.forall_mem_append]
      exact ⟨⟨first, between⟩, ih others⟩

/-- Every point is a character other than zero. -/
def Nonzero (text : Points) : Prop :=
  ∀ point ∈ text, ∃ char : Char, 0 < char.toNat ∧ point = .char char

namespace Nonzero

variable {front back : Points}

theorem cons {char : Char} (first : 0 < char.toNat) (others : Nonzero back) :
    Nonzero (.char char :: back) :=
  List.forall_mem_cons.mpr ⟨⟨char, first, rfl⟩, others⟩

theorem append (before : Nonzero front) (behind : Nonzero back) : Nonzero (front ++ back) :=
  List.forall_mem_append.mpr ⟨before, behind⟩

theorem of_chars {chars : List Char} (each : Text.Nonzero chars) : Nonzero (chars.map .char) := by
  intro point member
  obtain ⟨char, inside, rfl⟩ := List.mem_map.mp member
  exact ⟨char, each char inside, rfl⟩

theorem of_blank {blanks : Points} (blank : ∀ point ∈ blanks, point = .char ' ') : Nonzero blanks :=
  fun point member => ⟨' ', by decide, blank point member⟩

theorem whole (value : Int) : Nonzero (toString value : String) := by
  refine .of_chars fun char member => ?_
  cases minus_or_digit member with
  | inl minus => subst minus; decide
  | inr digit => exact Nat.lt_of_lt_of_le (by decide) (Char.isDigit_iff_toNat.mp digit).1

theorem escaped (style : Style) {text : Points} (whole : text.Whole) :
    Nonzero (text.flatMap (escape style)) := by
  intro point member
  obtain ⟨written, inside, found⟩ := List.mem_flatMap.mp member
  cases written with
  | half half => cases whole (.half half) inside
  | char char => exact of_chars (Stands.escape style char).nonzero point found

theorem exists_chars {text : Points} (nonzero : Nonzero text) :
    ∃ chars : List Char, text = chars.map .char ∧ Text.Nonzero chars := by
  induction text with
  | nil => exact ⟨[], rfl, List.forall_mem_nil _⟩
  | cons point text ih =>
    obtain ⟨⟨char, positive, rfl⟩, others⟩ := List.forall_mem_cons.mp nonzero
    obtain ⟨chars, rfl, each⟩ := ih others
    exact ⟨char :: chars, rfl, List.forall_mem_cons.mpr ⟨positive, each⟩⟩

end Nonzero

theorem nonzero_printIn (plain : style.Plain) {value : Json} (carried : Carried value) :
    Nonzero (printIn style value) := by
  obtain ⟨blanks, comma, blank⟩ := plain.comma
  have between : Nonzero style.comma := comma ▸ .cons (by decide) (.of_blank blank)
  have closed (char : Char) (positive : 0 < char.toNat) : Nonzero [.char char] :=
    .cons positive (List.forall_mem_nil _)
  induction carried with
  | null =>
    rw [printIn]
    exact .of_chars (by decide)
  | bool value =>
    rw [printIn]
    cases value <;> exact .of_chars (by decide)
  | int short =>
    rw [printIn]
    exact .whole _
  | text whole =>
    rw [printIn_text]
    exact .cons (by decide) (.append (.escaped style whole) (closed '"' (by decide)))
  | list each ih =>
    rw [printIn_list]
    refine .cons (by decide) (.append (forall_mem_intercalate between ?_) (closed ']' (by decide)))
    intro part member
    obtain ⟨item, inside, rfl⟩ := List.mem_map.mp member
    exact ih item inside
  | record distinct whole each ih =>
    rw [printIn_record]
    refine .cons (by decide) (.append (forall_mem_intercalate between ?_) (closed '\x7d' (by decide)))
    intro part member
    obtain ⟨field, inside, rfl⟩ := List.mem_map.mp member
    obtain ⟨blanks, colon, blank⟩ := plain.colon
    have colon : Nonzero style.colon := colon ▸ .cons (by decide) (.of_blank blank)
    exact Nonzero.cons (by decide) (.append (.escaped style (whole field inside))
      (.cons (by decide) (.append colon (ih field inside))))

/-- A printed value is read back from its UTF-8 bytes. -/
theorem decode_printIn (plain : style.Plain) {value : Json} (carried : Carried value) :
    Text.Encoding.decode (Text.Utf8.encode (printIn style value).shown.toList) =
      .ok (printIn style value) := by
  obtain ⟨first, others, written, ascii, -⟩ : Opens (printIn style value) := opens_printIn carried
  obtain ⟨chars, same, nonzero⟩ := (nonzero_printIn plain carried).exists_chars
  have unmarked : Text.Utf8.dropMark chars = chars := by
    cases chars with
    | nil => rfl
    | cons char chars =>
      rw [written] at same
      obtain rfl : first = char := Point.char.inj (List.cons.inj same).1
      rw [Text.Utf8.dropMark, if_neg (by omega)]
  have text : Points.ofString (String.ofList chars) = chars.map .char := by
    rw [Points.ofString, String.toList_ofList]
  rw [same, ← text, Points.shown_ofString, String.toList_ofList, text]
  exact Text.Encoding.decode_encode nonzero unmarked

end SwapWatch.Json
