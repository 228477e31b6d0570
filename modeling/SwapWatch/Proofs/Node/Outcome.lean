import SwapWatch.Node.Client
import SwapWatch.Proofs.Json.Bytes

/-!
# What replies yield

The status of a reply, the text of its body and the error in a record decide together what a client
takes from it. The first of them that fails is reported.
-/

set_option autoImplicit false

namespace SwapWatch

open Text (Points)

/-- What counts as false: nothing, false, zero and what is empty. -/
inductive Json.Falsy : Json → Prop where
  | null : Falsy .null
  | bool : Falsy (.bool false)
  | int : Falsy (.int 0)
  | real {value : Float} : (value == 0.0) = true → Falsy (.real value)
  | text : Falsy (.text [])
  | list : Falsy (.list [])
  | record : Falsy (.record [])

theorem Json.isTelling_eq_false_iff {value : Json} : value.isTelling = false ↔ value.Falsy := by
  constructor
  · intro untold
    cases value with
    | null => exact .null
    | bool value =>
      obtain rfl : value = false := untold
      exact .bool
    | int value =>
      obtain rfl : value = 0 := by simpa [isTelling] using untold
      exact .int
    | real value =>
      refine .real ?_
      simpa [isTelling, bne] using untold
    | text value =>
      obtain rfl : value = [] := by simpa [isTelling] using untold
      exact .text
    | list items =>
      obtain rfl : items = [] := by simpa [isTelling] using untold
      exact .list
    | record fields =>
      obtain rfl : fields = [] := by simpa [isTelling] using untold
      exact .record
  · intro falsy
    cases falsy with
    | real zero => simp [isTelling, bne, zero]
    | _ => rfl

def leftOut {α : Type} : Except Fault α → Bool
  | .error (.unwritten _) => true
  | _ => false

theorem leftOut_map {α β : Type} (outcome : Except Fault α) (name : α → β) :
    leftOut (outcome.map name) = leftOut outcome := by
  cases outcome with
  | ok value => rfl
  | error fault => cases fault <;> rfl

theorem leftOut_decodeBlock (outcome : Except Fault Json) (height : Int) :
    leftOut (outcome.bind (Client.decodeBlock height)) = leftOut outcome := by
  cases outcome with
  | error fault => cases fault <;> rfl
  | ok value =>
    change leftOut (Client.decodeBlock height value) = false
    cases value with
    | text text =>
      change leftOut ((Block.ofHex text.shown (some height)).mapError .undecodable) = false
      cases Block.ofHex text.shown (some height) <;> rfl
    | _ => rfl

namespace Reply

variable {reply : Reply}

def Accepted (reply : Reply) : Prop :=
  reply.status = 500 ∨ 200 ≤ reply.status ∧ reply.status < 300

theorem Accepted.of_success (success : reply.status = 200) : reply.Accepted := by
  rw [Accepted]
  omega

/-- The reply is accepted and its body is a text. -/
def Writes (reply : Reply) (text : Points) : Prop :=
  reply.Accepted ∧ Text.Encoding.decode reply.body = .ok text

def Records (reply : Reply) (fields : List (Points × Json)) : Prop :=
  ∃ text, reply.Writes text ∧ Json.ofPoints text = .ok (.record fields)

/-- What is to be taken from a reply. -/
inductive Yields (reply : Reply) : Except Fault Json → Prop where
  | status : ¬ reply.Accepted → Yields reply (.error (.status reply.status))
  | notText {flaw : Text.Encoding.Flaw} : reply.Accepted →
      Text.Encoding.decode reply.body = .error flaw → Yields reply (.error (.notText flaw))
  | notJson {text : Points} : reply.Writes text → Json.ofPoints text = .error .form →
      Yields reply (.error .notJson)
  | oversized {text : Points} {count : Nat} : reply.Writes text →
      Json.ofPoints text = .error (.digits count) → Yields reply (.error (.oversized count))
  | notRecord {text : Points} {value : Json} : reply.Writes text →
      Json.ofPoints text = .ok value → (∀ fields, value ≠ .record fields) →
      Yields reply (.error .notRecord)
  | untold {fields : List (Points × Json)} {error : Json} : reply.Records fields →
      Json.fieldIn? "error" fields = some error → ¬ error.Falsy → (∀ inner, error ≠ .record inner) →
      Yields reply (.error .notRecord)
  | refused {fields error : List (Points × Json)} : reply.Records fields →
      Json.fieldIn? "error" fields = some (.record error) → error ≠ [] →
      Yields reply (.error (.refused ((Json.fieldIn? "code" error).getD (.int (-1)))
        ((Json.fieldIn? "message" error).getD (.text "Unknown error"))))
  | result {fields : List (Points × Json)} : reply.Records fields →
      (∀ error, Json.fieldIn? "error" fields = some error → error.Falsy) →
      Yields reply (.ok ((Json.fieldIn? "result" fields).getD .null))

theorem isAnswer_iff : reply.isAnswer = true ↔ reply.Accepted := by
  simp [isAnswer, Accepted]

theorem result_of_not_accepted (other : ¬ reply.Accepted) :
    reply.result = .error (.status reply.status) :=
  if_neg fun answer => other (isAnswer_iff.mp answer)

theorem result_of_accepted (accepted : reply.Accepted) : reply.result = reply.json >>= resultIn :=
  if_pos (isAnswer_iff.mpr accepted)

theorem result_of_writes {text : Points} (writes : reply.Writes text) :
    reply.result = ((Json.ofPoints text).mapError fun
      | .form => .notJson
      | .digits count => .oversized count) >>= resultIn := by
  rw [result_of_accepted writes.1, json, writes.2]
  rfl

theorem Records.result {fields : List (Points × Json)} (records : reply.Records fields) :
    reply.result = resultIn (.record fields) := by
  obtain ⟨text, writes, read⟩ := records
  rw [result_of_writes writes, read]
  rfl

theorem resultIn_of_falsy {fields : List (Points × Json)}
    (falsy : ∀ error, Json.fieldIn? "error" fields = some error → error.Falsy) :
    resultIn (.record fields) = .ok ((Json.fieldIn? "result" fields).getD .null) := by
  have untold : ((Json.fieldIn? "error" fields).getD .null).isTelling = false := by
    cases found : Json.fieldIn? "error" fields with
    | none => rfl
    | some error => exact Json.isTelling_eq_false_iff.mpr (falsy error found)
  rw [resultIn, untold]
  rfl

theorem resultIn_of_telling {fields : List (Points × Json)} {error : Json}
    (found : Json.fieldIn? "error" fields = some error) (telling : ¬ error.Falsy) :
    resultIn (.record fields) = .error (refusal error) := by
  have told : error.isTelling = true := by
    rw [← Bool.not_eq_false, Json.isTelling_eq_false_iff]
    exact telling
  rw [resultIn, found, Option.getD_some, told]
  rfl

theorem result_of_yields {outcome : Except Fault Json} (yields : reply.Yields outcome) :
    reply.result = outcome := by
  cases yields with
  | status other => exact result_of_not_accepted other
  | notText accepted flawed =>
    rw [result_of_accepted accepted, json, flawed]
    rfl
  | notJson writes flawed =>
    rw [result_of_writes writes, flawed]
    rfl
  | oversized writes flawed =>
    rw [result_of_writes writes, flawed]
    rfl
  | @notRecord text value writes read other =>
    rw [result_of_writes writes, read]
    cases value with
    | record fields => exact absurd rfl (other fields)
    | _ => rfl
  | @untold fields error records found telling other =>
    rw [records.result, resultIn_of_telling found telling]
    cases error with
    | record inner => exact absurd rfl (other inner)
    | _ => rfl
  | refused records found some =>
    refine records.result.trans (resultIn_of_telling found ?_)
    intro falsy
    cases falsy
    exact some rfl
  | result records falsy => exact records.result.trans (resultIn_of_falsy falsy)

theorem Records.yields {fields : List (Points × Json)} (records : reply.Records fields) :
    reply.Yields reply.result := by
  have of_falsy (falsy : ∀ error, Json.fieldIn? "error" fields = some error → error.Falsy) :
      reply.Yields reply.result := by
    rw [records.result, resultIn_of_falsy falsy]
    exact .result records falsy
  cases found : Json.fieldIn? "error" fields with
  | none =>
    refine of_falsy fun error other => ?_
    rw [found] at other
    cases other
  | some error =>
    by_cases falsy : error.Falsy
    · refine of_falsy fun other same => ?_
      rw [found] at same
      exact Option.some.inj same ▸ falsy
    · rw [records.result, resultIn_of_telling found falsy]
      cases error with
      | record inner =>
        refine .refused records found ?_
        intro none
        exact falsy (none ▸ .record)
      | _ =>
        refine .untold records found falsy ?_
        intro inner same
        cases same

/-- Every reply yields one thing, and a client takes this from it. -/
theorem yields_result (reply : Reply) : reply.Yields reply.result := by
  by_cases accepted : reply.Accepted
  · cases decoded : Text.Encoding.decode reply.body with
    | error flaw =>
      rw [result_of_accepted accepted, json, decoded]
      exact .notText accepted decoded
    | ok text =>
      have writes : reply.Writes text := ⟨accepted, decoded⟩
      cases read : Json.ofPoints text with
      | error flaw =>
        rw [result_of_writes writes, read]
        cases flaw with
        | form => exact .notJson writes read
        | digits count => exact .oversized writes read
      | ok value =>
        cases value with
        | record fields => exact Records.yields ⟨text, writes, read⟩
        | _ =>
          rw [result_of_writes writes, read]
          refine .notRecord writes read ?_
          intro fields same
          cases same
  · rw [result_of_not_accepted accepted]
    exact .status accepted

/-- A body of too many digits is not reported as bad JSON. -/
theorem result_of_digits {first : Char} {others : List Char}
    (each : ∀ char ∈ first :: others, char.isDigit = true) (nonzero : first ≠ '0')
    (long : Json.maxDigits < (first :: others).length) :
    result ⟨200, Text.Utf8.encode (first :: others)⟩ =
      .error (.oversized (first :: others).length) := by
  have small (char : Char) (member : char ∈ first :: others) : 48 ≤ char.toNat ∧ char.toNat ≤ 57 :=
    Char.isDigit_iff_toNat.mp (each char member)
  have unmarked : Text.Utf8.dropMark (first :: others) = first :: others := by
    have bound := small first List.mem_cons_self
    rw [Text.Utf8.dropMark, if_neg (by omega)]
  have decoded := Text.Encoding.decode_encode
    (fun char member => Nat.lt_of_lt_of_le (by decide) (small char member).1) unmarked
  exact result_of_yields (.oversized ⟨.of_success rfl, decoded⟩
    (Json.ofPoints_oversized each nonzero long))

theorem leftOut_result (reply : Reply) : leftOut reply.result = false := by
  have yields := yields_result reply
  generalize reply.result = outcome at yields
  cases yields <;> rfl

theorem result_eq_iff_yields {outcome : Except Fault Json} :
    reply.result = outcome ↔ reply.Yields outcome := by
  constructor
  · intro given
    exact given ▸ yields_result reply
  · exact result_of_yields

end Reply

end SwapWatch
