import SwapWatch.Proofs.Json.Numbers
import SwapWatch.Proofs.Json.Strings

/-!
# JSON text read back

A printed value is read back as it was. Left out are floats, halves of surrogate pairs, whole numbers
with more digits than the reader takes, and records with two fields of one name.
-/

set_option autoImplicit false

namespace SwapWatch.Json

open Reader
open Text (Point Points)

/-- A value that JSON text carries without loss. -/
inductive Carried : Json → Prop where
  | null : Carried .null
  | bool (value : Bool) : Carried (.bool value)
  | int {value : Int} : isShort value = true → Carried (.int value)
  | text {value : Points} : value.Whole → Carried (.text value)
  | list {items : List Json} : (∀ item ∈ items, Carried item) → Carried (.list items)
  | record {fields : List (Points × Json)} : (fields.map (·.1)).Nodup →
      (∀ field ∈ fields, field.1.Whole) → (∀ field ∈ fields, Carried field.2) →
      Carried (.record fields)

theorem Carried.of_names (names : List String)
    (distinct : (names.map Points.ofString).Nodup) {fields : List (Points × Json)}
    (named : fields.map (·.1) = names.map Points.ofString)
    (each : ∀ field ∈ fields, Carried field.2) : Carried (.record fields) := by
  refine .record (named ▸ distinct) ?_ each
  intro field member
  have inside : field.1 ∈ names.map Points.ofString := named ▸ List.mem_map_of_mem member
  obtain ⟨name, -, same⟩ := List.mem_map.mp inside
  exact same ▸ Points.whole_ofString name

/-- The separators of the style are a comma and a colon, with blanks behind them. -/
structure Style.Plain (style : Style) : Prop where
  comma : ∃ blanks, (style.comma : Points) = .char ',' :: blanks ∧ ∀ point ∈ blanks, point = .char ' '
  colon : ∃ blanks, (style.colon : Points) = .char ':' :: blanks ∧ ∀ point ∈ blanks, point = .char ' '

theorem Style.plain_line : Style.line.Plain :=
  ⟨⟨[.char ' '], rfl, by simp⟩, ⟨[.char ' '], rfl, by simp⟩⟩

/-! ## What is printed -/

variable {style : Style}

theorem printItems_eq_map (items : List Json) : printItems style items = items.map (printIn style) := by
  induction items with
  | nil => rfl
  | cons item items ih => rw [printItems, ih, List.map_cons]

def printField (style : Style) (field : Points × Json) : Points :=
  .char '"' :: (field.1.flatMap (escape style) ++
    .char '"' :: ((style.colon : Points) ++ printIn style field.2))

theorem printFields_eq_map (fields : List (Points × Json)) :
    printFields style fields = fields.map (printField style) := by
  induction fields with
  | nil => rfl
  | cons field fields ih =>
    rw [printFields, ih, List.map_cons, printField, printText]
    simp only [List.cons_append, List.append_assoc, List.nil_append]

theorem printIn_text (text : Points) :
    printIn style (.text text) = .char '"' :: (text.flatMap (escape style) ++ [.char '"']) := by
  rw [printIn, printText, List.cons_append]

theorem printIn_list (items : List Json) :
    printIn style (.list items) =
      .char '[' :: ((style.comma : Points).intercalate (items.map (printIn style)) ++ [.char ']']) := by
  rw [printIn, printItems_eq_map, List.cons_append]

theorem printIn_record (fields : List (Points × Json)) :
    printIn style (.record fields) = .char '\x7b' ::
      ((style.comma : Points).intercalate (fields.map (printField style)) ++ [.char '\x7d']) := by
  rw [printIn, printFields_eq_map, List.cons_append]

/-! ## Where a value starts -/

/-- The text starts like a value: with an ASCII character that neither is blank nor ends a list or a
record. -/
def Opens (text : Points) : Prop :=
  ∃ first others, text = .char first :: others ∧ first.toNat < 128 ∧
    first ∉ [' ', '\t', '\n', '\r', ']', '\x7d']

theorem Opens.append {front : Points} (opens : Opens front) (back : Points) :
    Opens (front ++ back) := by
  obtain ⟨first, others, rfl, ascii, start⟩ := opens
  exact ⟨first, others ++ back, rfl, ascii, start⟩

theorem opens_printIn {value : Json} (carried : Carried value) : Opens (printIn style value) := by
  cases carried with
  | null => exact ⟨_, _, by rw [printIn]; rfl, by decide, by decide⟩
  | bool value => cases value <;> exact ⟨_, _, by rw [printIn]; rfl, by decide, by decide⟩
  | int short =>
    obtain ⟨first, others, written, start⟩ := exists_start _
    refine ⟨first, others.map .char, by rw [printIn, Points.ofString, written, List.map_cons], ?_⟩
    cases start with
    | inl minus => subst minus; decide
    | inr digit =>
      have small : first.toNat ≤ 57 := (Char.isDigit_iff_toNat.mp digit).2
      refine ⟨by omega, ?_⟩
      intro blank
      simp only [List.mem_cons, List.not_mem_nil, or_false] at blank
      rcases blank with rfl | rfl | rfl | rfl | rfl | rfl <;> cases digit
  | text whole => exact ⟨_, _, printIn_text _, by decide, by decide⟩
  | list each => exact ⟨_, _, printIn_list _, by decide, by decide⟩
  | record distinct names each => exact ⟨_, _, printIn_record _, by decide, by decide⟩

theorem opens_field {field : Points × Json} : Opens (printField style field) :=
  ⟨_, _, rfl, by decide, by decide⟩

theorem skip_of_opens {text : Points} (opens : Opens text) : skip text = text := by
  obtain ⟨first, others, rfl, -, start⟩ := opens
  simp only [List.mem_cons, List.not_mem_nil, or_false, not_or] at start
  exact List.dropWhile_cons_of_neg (by simp [isBlank, start])

theorem skip_blanks {blanks : Points} (blank : ∀ point ∈ blanks, point = .char ' ') (text : Points) :
    skip (blanks ++ text) = skip text :=
  List.dropWhile_append_of_pos fun point member => by simp [isBlank, blank point member]

/-! ## How it is read -/

/-- The value is read back from its characters, whatever it stands in front of. -/
def ReadBack (style : Style) (value : Json) : Prop :=
  ∀ fuel rest, (printIn style value).length ≤ fuel → Stops rest →
    Reader.value fuel (printIn style value ++ rest) = .ok (value, rest)

theorem value_of_atomic {first : Char} (atomic : isAtomic first = true) (fuel : Nat) (others : Points) :
    Reader.value (fuel + 1) (.char first :: others) = atom (.char first :: others) := by
  rw [Reader.value]
  all_goals
    rintro _ ⟨⟩
    cases atomic

/-- A number or a word is read as a value. -/
theorem value_append {chars : List Char} (atomic : chars.all isAtomic = true)
    (nonempty : chars ≠ []) {value : Json} (read : atomIn chars = .ok (value, [])) (fuel : Nat)
    {rest : Points} (stops : Stops rest) :
    Reader.value (fuel + 1) (chars.map .char ++ rest) = .ok (value, rest) := by
  rw [← atom_append atomic read stops]
  cases chars with
  | nil => exact absurd rfl nonempty
  | cons first others => exact value_of_atomic (List.all_eq_true.mp atomic first (.head _)) fuel _

/-- A whole number with too many digits is reported with their count. -/
theorem ofPoints_oversized {first : Char} {others : List Char}
    (each : ∀ char ∈ first :: others, char.isDigit = true) (nonzero : first ≠ '0')
    (long : maxDigits < (first :: others).length) :
    ofPoints ((first :: others).map .char) = .error (.digits (first :: others).length) := by
  have digit := each first List.mem_cons_self
  have unblank : isBlank (.char first) = false := by
    have other (char : Char) (plain : char.isDigit = false) : first ≠ char := by
      intro same
      rw [← same, digit] at plain
      cases plain
    simp [isBlank, other ' ' rfl, other '\t' rfl, other '\n' rfl, other '\r' rfl]
  have unskipped : skip ((first :: others).map .char) = (first :: others).map .char :=
    List.dropWhile_cons_of_neg (by simp [unblank])
  have atomic : (first :: others).all isAtomic = true :=
    List.all_eq_true.mpr fun char member => isAtomic_of_digit (each char member)
  have taken := atomChars_append atomic .nil
  have read : atom ((first :: others).map .char) = .error (.digits (first :: others).length) := by
    rw [List.append_nil] at taken
    rw [atom, taken, atomIn_oversized each nonzero long]
    rfl
  rw [List.map_cons] at read unskipped ⊢
  rw [ofPoints, unskipped, value_of_atomic (isAtomic_of_digit digit), read]
  rfl

theorem ReadBack.of_step {value : Json} (carried : Carried value)
    (step : ∀ fuel rest, (printIn style value).length ≤ fuel + 1 → Stops rest →
      Reader.value (fuel + 1) (printIn style value ++ rest) = .ok (value, rest)) :
    ReadBack style value := by
  intro fuel rest enough stops
  cases fuel with
  | zero =>
    obtain ⟨first, others, written, -, -⟩ : Opens (printIn style value) := opens_printIn carried
    rw [written] at enough
    cases enough
  | succ fuel => exact step fuel rest enough stops

theorem value_int {value : Int} (short : isShort value = true) (fuel : Nat) {rest : Points}
    (stops : Stops rest) :
    Reader.value (fuel + 1) (printIn style (.int value) ++ rest) = .ok (.int value, rest) := by
  obtain ⟨first, others, written, -⟩ := exists_start value
  have nonempty : (toString value).toList ≠ [] := written ▸ List.cons_ne_nil first others
  rw [printIn]
  exact value_append (isAtomic_toString value) nonempty (atomIn_int short) fuel stops

theorem value_text {text : Points} (whole : text.Whole) (fuel : Nat) (rest : Points) :
    Reader.value (fuel + 1) (printIn style (.text text) ++ rest) = .ok (.text text, rest) := by
  rw [printIn_text, List.cons_append, List.append_assoc, Reader.value.eq_def]
  simp only [List.singleton_append, string_printed rest style whole]
  rfl

theorem value_list {text : Points} (opens : Opens text) (fuel : Nat) :
    Reader.value (fuel + 1) (.char '[' :: text) =
      (Reader.items fuel text).map fun (items, rest) => (.list items, rest) := by
  rw [Reader.value.eq_def]
  simp only [skip_of_opens opens]
  obtain ⟨first, others, rfl, -, start⟩ := opens
  split
  · next closed =>
    cases closed
    exact absurd (by decide) start
  · rfl

theorem value_record {text : Points} (opens : Opens text) (fuel : Nat) :
    Reader.value (fuel + 1) (.char '\x7b' :: text) =
      (Reader.fields fuel [] text).map fun (fields, rest) => (.record fields, rest) := by
  rw [Reader.value.eq_def]
  simp only [skip_of_opens opens]
  obtain ⟨first, others, rfl, -, start⟩ := opens
  split
  · next closed =>
    cases closed
    exact absurd (by decide) start
  · rfl

theorem opens_intercalate {separator first : Points} (opens : Opens first)
    (others : List Points) : Opens (separator.intercalate (first :: others)) := by
  cases others with
  | nil =>
    rw [List.intercalate_singleton]
    exact opens
  | cons second others =>
    rw [List.intercalate_cons_cons, List.append_assoc]
    exact opens.append _

variable {blanks : Points}

theorem items_printed (blank : ∀ point ∈ blanks, point = .char ' ') {item : Json} {items : List Json}
    (carried : ∀ other ∈ item :: items, Carried other)
    (readBack : ∀ other ∈ item :: items, ReadBack style other) (fuel : Nat) (rest : Points)
    (enough : ((.char ',' :: blanks).intercalate ((item :: items).map (printIn style))).length < fuel) :
    Reader.items fuel
        ((.char ',' :: blanks).intercalate ((item :: items).map (printIn style)) ++ .char ']' :: rest) =
      .ok (item :: items, rest) := by
  -- An item takes one step of the fuel and at least one point of the text.
  obtain ⟨fuel, rfl⟩ := Nat.exists_eq_add_one_of_ne_zero (Nat.ne_zero_of_lt enough)
  induction items generalizing item fuel with
  | nil =>
    rw [List.map_cons, List.map_nil, List.intercalate_singleton] at *
    rw [Reader.items, readBack item (.head _) fuel _ (Nat.le_of_lt_succ enough) (.bracket rest)]
    rfl
  | cons next items ih =>
    have behind : Opens ((.char ',' :: blanks).intercalate ((next :: items).map (printIn style))) :=
      opens_intercalate (opens_printIn (carried next (.tail _ (.head _)))) _
    simp only [List.map_cons, List.intercalate_cons_cons, List.append_assoc, List.cons_append,
      List.length_append, List.length_cons] at behind ih enough ⊢
    rw [Reader.items, readBack item (.head _) fuel _ (by omega) (.comma _)]
    change (Reader.items fuel (skip (blanks ++ _)) >>= fun read =>
      Except.ok (item :: read.1, read.2)) = _
    obtain ⟨fuel, rfl⟩ : ∃ less, fuel = less + 1 := Nat.exists_eq_add_one_of_ne_zero (by omega)
    rw [skip_blanks blank, skip_of_opens (behind.append _),
      ih (fun other member => carried other (.tail _ member))
        (fun other member => readBack other (.tail _ member)) fuel (by omega)]
    rfl

/-- A field with a new name is read and put behind the fields already known. -/
theorem fields_step (plain : style.Plain) {field : Points × Json}
    (whole : field.1.Whole) (carried : Carried field.2)
    (readBack : ReadBack style field.2) {known : List (Points × Json)}
    (new : field.1 ∉ known.map (·.1)) {fuel : Nat} (enough : (printField style field).length ≤ fuel)
    {rest : Points} (stops : Stops rest) :
    Reader.fields (fuel + 1) known (printField style field ++ rest) =
      match skip rest with
      | .char ',' :: rest => Reader.fields fuel (known ++ [field]) (skip rest)
      | .char '\x7d' :: rest => .ok (known ++ [field], rest)
      | _ => .error .form := by
  obtain ⟨blanks, colon, blank⟩ := plain.colon
  have short : (printIn style field.2).length ≤ fuel := by
    simp only [printField, List.length_cons, List.length_append] at enough
    omega
  have read : Reader.value fuel (skip (blanks ++ (printIn style field.2 ++ rest))) =
      .ok (field.2, rest) := by
    rw [skip_blanks blank, skip_of_opens ((opens_printIn carried).append rest),
      readBack fuel rest short stops]
  simp only [printField, List.cons_append, List.append_assoc, colon]
  rw [Reader.fields.eq_def]
  simp only [string_printed _ style whole]
  change (Reader.value fuel (skip (blanks ++ (printIn style field.2 ++ rest))) >>= _) = _
  rw [read]
  change (match skip rest with
    | .char ',' :: rest => Reader.fields fuel (Entries.set field.1 field.2 known) (skip rest)
    | .char '\x7d' :: rest => .ok (Entries.set field.1 field.2 known, rest)
    | _ => .error .form) = _
  rw [Entries.set_of_not_mem new]

theorem new_of_distinct {known fields : List (Points × Json)} {field : Points × Json}
    (distinct : ((known ++ field :: fields).map (·.1)).Nodup) : field.1 ∉ known.map (·.1) := by
  rw [List.map_append, List.nodup_append] at distinct
  intro member
  exact distinct.2.2 field.1 member field.1 (.head _) rfl

theorem fields_printed (plain : style.Plain) (blank : ∀ point ∈ blanks, point = .char ' ')
    {field : Points × Json} {fields : List (Points × Json)}
    (whole : ∀ other ∈ field :: fields, other.1.Whole)
    (carried : ∀ other ∈ field :: fields, Carried other.2)
    (readBack : ∀ other ∈ field :: fields, ReadBack style other.2)
    {known : List (Points × Json)} (distinct : ((known ++ field :: fields).map (·.1)).Nodup)
    (fuel : Nat) (rest : Points)
    (enough : ((.char ',' :: blanks).intercalate ((field :: fields).map (printField style))).length < fuel) :
    Reader.fields fuel known
        ((.char ',' :: blanks).intercalate ((field :: fields).map (printField style)) ++ .char '\x7d' :: rest) =
      .ok (known ++ field :: fields, rest) := by
  obtain ⟨fuel, rfl⟩ := Nat.exists_eq_add_one_of_ne_zero (Nat.ne_zero_of_lt enough)
  induction fields generalizing field known fuel with
  | nil =>
    rw [List.map_cons, List.map_nil, List.intercalate_singleton] at *
    rw [fields_step plain (whole field (.head _)) (carried field (.head _))
      (readBack field (.head _)) (new_of_distinct distinct) (Nat.le_of_lt_succ enough) (.brace rest)]
    rfl
  | cons next fields ih =>
    have behind : Opens ((.char ',' :: blanks).intercalate ((next :: fields).map (printField style))) :=
      opens_intercalate opens_field _
    simp only [List.map_cons, List.intercalate_cons_cons, List.append_assoc, List.cons_append,
      List.length_append, List.length_cons] at behind ih enough ⊢
    rw [fields_step plain (whole field (.head _)) (carried field (.head _))
      (readBack field (.head _)) (new_of_distinct distinct) (by omega) (.comma _)]
    change Reader.fields fuel (known ++ [field]) (skip (blanks ++ _)) = _
    obtain ⟨fuel, rfl⟩ : ∃ less, fuel = less + 1 := Nat.exists_eq_add_one_of_ne_zero (by omega)
    rw [List.append_cons known field (next :: fields)] at distinct ⊢
    rw [skip_blanks blank, skip_of_opens (behind.append _),
      ih (fun other member => whole other (.tail _ member))
        (fun other member => carried other (.tail _ member))
        (fun other member => readBack other (.tail _ member)) distinct fuel (by omega)]

theorem readBack_of_carried (plain : style.Plain) {value : Json} (carried : Carried value) :
    ReadBack style value := by
  induction carried with
  | null =>
    refine .of_step .null fun fuel rest _ stops => ?_
    rw [printIn]
    exact value_append rfl (List.cons_ne_nil _ _) rfl fuel stops
  | bool value =>
    refine .of_step (.bool value) fun fuel rest _ stops => ?_
    rw [printIn]
    cases value <;> exact value_append rfl (List.cons_ne_nil _ _) rfl fuel stops
  | int short => exact .of_step (.int short) fun fuel rest _ => value_int short fuel
  | text whole => exact .of_step (.text whole) fun fuel rest _ _ => value_text whole fuel rest
  | @list items each ih =>
    refine .of_step (.list each) fun fuel rest enough _ => ?_
    rw [printIn_list] at enough ⊢
    cases items with
    | nil => rfl
    | cons item items =>
      obtain ⟨blanks, comma, blank⟩ := plain.comma
      have opens : Opens ((.char ',' :: blanks).intercalate ((item :: items).map (printIn style))) :=
        opens_intercalate (opens_printIn (each item (.head _))) _
      rw [comma, List.length_cons, List.length_append] at enough
      rw [comma, List.cons_append, List.append_assoc, List.singleton_append,
        value_list (opens.append _), items_printed blank each ih fuel rest (by
          rw [List.length_singleton] at enough
          omega)]
      rfl
  | @record fields distinct whole each ih =>
    refine .of_step (.record distinct whole each) fun fuel rest enough _ => ?_
    rw [printIn_record] at enough ⊢
    cases fields with
    | nil => rfl
    | cons field fields =>
      obtain ⟨blanks, comma, blank⟩ := plain.comma
      have opens : Opens ((.char ',' :: blanks).intercalate ((field :: fields).map (printField style))) :=
        opens_intercalate opens_field _
      rw [comma, List.length_cons, List.length_append] at enough
      rw [comma, List.cons_append, List.append_assoc, List.singleton_append,
        value_record (opens.append _),
        fields_printed plain blank whole each ih distinct fuel rest (by
          rw [List.length_singleton] at enough
          omega)]
      rfl

/-- A printed value is read back as it was. -/
theorem ofPoints_printIn (plain : style.Plain) {value : Json} (carried : Carried value) :
    ofPoints (printIn style value) = .ok value := by
  have read := readBack_of_carried plain carried (2 * (printIn style value).length + 2) [] (by omega)
    .nil
  rw [List.append_nil] at read
  rw [ofPoints, skip_of_opens (opens_printIn carried), read]
  rfl

end SwapWatch.Json
