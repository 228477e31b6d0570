import SwapWatch.Proofs.Json.Bytes

/-!
# Values that are always written

A value is plain when its floats are finite, its whole numbers fit some bound and its texts hold no
halves of surrogate pairs. Strict printing refuses no plain value.
-/

set_option autoImplicit false

namespace SwapWatch

open Text (Points)

namespace Text.Points

theorem Whole.append {front back : Points} (before : front.Whole) (behind : back.Whole) :
    Whole (front ++ back) :=
  List.forall_mem_append.mpr ⟨before, behind⟩

theorem run?_of_whole {text : Points} (whole : text.Whole) : text.run? = none := by
  have none : text.dropWhile (!·.isHalf) = [] := by
    rw [List.dropWhile_eq_nil_iff]
    intro point member
    rw [whole point member]
    rfl
  rw [run?, none]

end Text.Points

namespace Json

inductive Plain (fits : Int → Prop) : Json → Prop where
  | null : Plain fits .null
  | bool (value : Bool) : Plain fits (.bool value)
  | int {value : Int} : fits value → Plain fits (.int value)
  | real {value : Float} : value.isFinite = true → Plain fits (.real value)
  | text {value : Points} : value.Whole → Plain fits (.text value)
  | list {items : List Json} : (∀ item ∈ items, Plain fits item) → Plain fits (.list items)
  | record {fields : List (Points × Json)} : (∀ field ∈ fields, field.1.Whole) →
      (∀ field ∈ fields, Plain fits field.2) → Plain fits (.record fields)

/-- A value whose whole numbers can be written in full. -/
abbrev Writable (value : Json) : Prop :=
  value.Plain fun number => isShort number = true

variable {fits : Int → Prop} {style : Style}

theorem whole_escaped {text : Points} (whole : text.Whole) :
    Points.Whole (text.flatMap (escape style)) := by
  intro point member
  obtain ⟨written, inside, found⟩ := List.mem_flatMap.mp member
  cases written with
  | half half => cases whole (.half half) inside
  | char char =>
    obtain ⟨other, -, rfl⟩ := List.mem_map.mp found
    rfl

theorem whole_printIn {value : Json} (plain : value.Plain fits) : (printIn style value).Whole := by
  have char (char : Char) : Points.Whole [.char char] := List.forall_mem_singleton.mpr rfl
  induction plain with
  | null =>
    rw [printIn]
    exact Points.whole_ofString _
  | bool value =>
    rw [printIn]
    cases value <;> exact Points.whole_ofString _
  | int fitting =>
    rw [printIn]
    exact Points.whole_ofString _
  | real finite =>
    rw [printIn]
    exact Points.whole_ofString _
  | text whole =>
    rw [printIn_text]
    exact (char '"').append ((whole_escaped whole).append (char '"'))
  | list each ih =>
    rw [printIn_list]
    refine (char '[').append (.append (forall_mem_intercalate (Points.whole_ofString _) ?_) (char ']'))
    intro part member
    obtain ⟨item, inside, rfl⟩ := List.mem_map.mp member
    exact ih item inside
  | record names each ih =>
    rw [printIn_record]
    refine (char '\x7b').append
      (.append (forall_mem_intercalate (Points.whole_ofString _) ?_) (char '\x7d'))
    intro part member
    obtain ⟨field, inside, rfl⟩ := List.mem_map.mp member
    exact (char '"').append ((whole_escaped (names field inside)).append
      ((char '"').append ((Points.whole_ofString _).append (ih field inside))))

theorem itemRefusal?_of_none {items : List Json}
    (each : ∀ item ∈ items, numberRefusal? item = none) : itemRefusal? items = none := by
  induction items with
  | nil => rfl
  | cons item items ih =>
    obtain ⟨first, others⟩ := List.forall_mem_cons.mp each
    rw [itemRefusal?, first, ih others]
    rfl

theorem fieldRefusal?_of_none {fields : List (Points × Json)}
    (each : ∀ field ∈ fields, numberRefusal? field.2 = none) : fieldRefusal? fields = none := by
  induction fields with
  | nil => rfl
  | cons field fields ih =>
    obtain ⟨first, others⟩ := List.forall_mem_cons.mp each
    rw [fieldRefusal?, first, ih others]
    rfl

theorem numberRefusal?_of_writable {value : Json} (writable : value.Writable) :
    numberRefusal? value = none := by
  induction writable with
  | int short => rw [numberRefusal?, if_pos short]
  | real finite => rw [numberRefusal?, if_pos finite]
  | list each ih => rw [numberRefusal?, itemRefusal?_of_none ih]
  | record names each ih => rw [numberRefusal?, fieldRefusal?_of_none ih]
  | _ => rfl

theorem refusal?_of_writable {value : Json} (writable : value.Writable) : value.refusal? = none := by
  rw [refusal?, numberRefusal?_of_writable writable, Points.run?_of_whole (whole_printIn writable)]
  rfl

/-- A half that is escaped alone is read, here as a result. -/
theorem ofPoints_half :
    ofPoints "\x7b\"result\": \"\\ud800\"\x7d" = .ok (.record [("result", .text [.ofUnit 0xd800])]) := by
  have name : Reader.string "result\": \"\\ud800\"\x7d" = .ok ("result", ": \"\\ud800\"\x7d") := rfl
  have colon : Reader.skip ": \"\\ud800\"\x7d" = .char ':' :: " \"\\ud800\"\x7d" := rfl
  have blank : Reader.skip " \"\\ud800\"\x7d" = .char '"' :: "\\ud800\"\x7d" := rfl
  have half : Reader.string "\\ud800\"\x7d" = .ok ([.ofUnit 0xd800], [.char '\x7d']) := rfl
  -- From here on the half is only a text, so nothing evaluates it.
  generalize [Text.Point.ofUnit 0xd800] = text at half
  have read (fuel : Nat) : Reader.value (fuel + 1) (.char '"' :: "\\ud800\"\x7d") =
      .ok (.text text, [.char '\x7d']) := by
    rw [Reader.value.eq_def]
    simp only [half]
    rfl
  have fields (fuel : Nat) :
      Reader.fields (fuel + 2) [] (.char '"' :: "result\": \"\\ud800\"\x7d") =
        .ok ([("result", .text text)], []) := by
    rw [Reader.fields.eq_def]
    simp only [name, bind, Except.bind, colon, blank, read]
    rfl
  have opens : Opens (.char '"' :: "result\": \"\\ud800\"\x7d") :=
    ⟨'"', _, rfl, by decide, by decide⟩
  have record (fuel : Nat) :
      Reader.value (fuel + 3) (.char '\x7b' :: .char '"' :: "result\": \"\\ud800\"\x7d") =
        .ok (.record [("result", .text text)], []) := by
    rw [value_record opens, fields]
    rfl
  have skipped : Reader.skip "\x7b\"result\": \"\\ud800\"\x7d" =
      .char '\x7b' :: .char '"' :: "result\": \"\\ud800\"\x7d" := rfl
  rw [ofPoints, skipped]
  change Reader.value (39 + 3) (.char '\x7b' :: .char '"' :: "result\": \"\\ud800\"\x7d") >>= _ = _
  rw [record]
  rfl

end Json

end SwapWatch
