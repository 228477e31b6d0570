import SwapWatch.Node.Archive
import SwapWatch.Node.Client
import SwapWatch.Proofs.Json.Strict

/-!
# Nodes that serve an archive

A node reads a method and its arguments from the body of a post. It answers from an archive: with
status 200 and the result, or with status 500 and the code and message of the refusal. A client that
gets such a reply takes from it what the archive says.
-/

set_option autoImplicit false

namespace SwapWatch

open Text (Points)

/-! ## What is asked -/

inductive Query where
  | tip
  | hashAt (height : Int)
  | textOf (hash : String)
deriving DecidableEq, Repr

def Query.request : Query → Request
  | tip => .blockCount
  | hashAt height => .blockHash height
  | textOf hash => .rawBlock (.text hash)

/-- The height that is asked for. -/
def Query.height? : Query → Option Int
  | hashAt height => some height
  | _ => none

def Json.string? : Json → Option String
  | text value => value.string?
  | _ => none

/-- What a node takes a post for. -/
def Post.query? (post : Post) : Option Query :=
  match (post.body.field? "method").bind Json.string?, post.body.field? "params" with
  | some "getblockcount", some (.list []) => some .tip
  | some "getblockhash", some (.list [.int height]) => some (.hashAt height)
  | some "getblock", some (.list [.text hash, .int 0]) => hash.string?.map .textOf
  | _, _ => none

theorem Json.plain_text {fits : Int → Prop} (value : String) : (Json.text value).Plain fits :=
  .text (Points.whole_ofString value)

namespace Endpoint

variable (endpoint : Endpoint) (number : Nat)

theorem query?_post (query : Query) :
    (endpoint.post number query.request).query? = some query := by
  have method : ((endpoint.post number query.request).body.field? "method").bind Json.string? =
      some query.request.method := Points.string?_ofString query.request.method
  rw [Post.query?, method]
  cases query with
  | tip => rfl
  | hashAt height => rfl
  | textOf hash => exact congrArg (Option.map Query.textOf) (Points.string?_ofString hash)

theorem plain_post {fits : Int → Prop} {request : Request} (numbered : fits number)
    (each : ∀ argument ∈ request.arguments, argument.Plain fits) :
    (endpoint.post number request).body.Plain fits := by
  have whole := Points.whole_ofString
  refine .record ?_ ?_
  · simp [whole]
  · simp only [List.forall_mem_cons]
    exact ⟨Json.plain_text "1.0", .int numbered, Json.plain_text request.method, .list each,
      List.forall_mem_nil _⟩

theorem plain_query {fits : Int → Prop} (zero : fits 0) (numbered : fits number) {query : Query}
    (asked : ∀ height ∈ query.height?, fits height) :
    (endpoint.post number query.request).body.Plain fits := by
  refine endpoint.plain_post number numbered ?_
  cases query with
  | tip => exact List.forall_mem_nil _
  | hashAt height => exact List.forall_mem_singleton.mpr (.int (asked height rfl))
  | textOf hash =>
    exact List.forall_mem_cons.mpr
      ⟨Json.plain_text hash, List.forall_mem_singleton.mpr (.int zero)⟩

end Endpoint

/-! ## What is answered -/

def Archive.answer (archive : Archive) : Query → Except Fault Json
  | .tip => .ok (.int archive.tip)
  | .hashAt height => (archive.hashAt height).map Json.ofString
  | .textOf hash => (archive.textOf hash).map Json.ofString

/-- The reply gives a result, or the code and the message of a refusal. -/
inductive Reply.Gives (reply : Reply) : Except Fault Json → Prop where
  | result {fields : List (Points × Json)} {value : Json} :
      reply.status = 200 → reply.json = .ok (.record fields) →
      Json.fieldIn? "result" fields = some value → Json.fieldIn? "error" fields = some .null →
      Gives reply (.ok value)
  | refusal {fields error : List (Points × Json)} {code message : Json} :
      reply.status = 500 → reply.json = .ok (.record fields) →
      Json.fieldIn? "error" fields = some (.record error) → Json.fieldIn? "code" error = some code →
      Json.fieldIn? "message" error = some message → Gives reply (.error (.refused code message))

theorem Reply.result_of_gives {reply : Reply} {answer : Except Fault Json}
    (gives : reply.Gives answer) : reply.result = answer := by
  cases gives with
  | @result fields value status read given none =>
    have isAnswer : reply.isAnswer = true := by
      rw [isAnswer, status]
      rfl
    rw [result, isAnswer, read]
    change resultIn (.record fields) = .ok value
    rw [resultIn, none, given]
    rfl
  | @refusal fields error code message status read refused coded told =>
    have isAnswer : reply.isAnswer = true := by
      rw [isAnswer, status]
      rfl
    have telling : (Json.record error).isTelling = true := by
      cases error with
      | nil => cases coded
      | cons field others => rfl
    rw [result, isAnswer, read]
    change resultIn (.record fields) = .error (.refused code message)
    rw [resultIn, refused]
    change (if (Json.record error).isTelling then Except.error (refusal (.record error)) else _) = _
    rw [telling, refusal, coded, told]
    rfl

variable {σ : Type}

/-- Whatever state it is in, the node answers a query from the archive if the body that it comes in is
plain. -/
def Archive.ServedBy (archive : Archive) (fits : Int → Prop) (send : Post → StateM σ Reply) : Prop :=
  ∀ post query, post.query? = some query → post.body.Plain fits →
    ∀ world, (send post world).1.Gives (archive.answer query)

/-- The client writes every plain body. -/
def Client.Writes {m : Type → Type} (client : Client m) (fits : Int → Prop) : Prop :=
  ∀ body : Json, body.Plain fits → client.refusal? body = none

namespace Client

variable {client : Client (StateM σ)} {request : Request} {number : Nat}

theorem call_of_written
    (written : client.refusal? (client.endpoint.post (number + 1) request).body = none) (world : σ) :
    client.call request number world =
      (((client.send (client.endpoint.post (number + 1) request) world).1.result, number + 1),
        (client.send (client.endpoint.post (number + 1) request) world).2) := by
  change ((client.call request).run number).run world = _
  simp only [call, StateT.run_bind, StateT.run_get, StateT.run_set, pure_bind, written]
  rfl

theorem call_of_refused {refusal : Json.Refusal}
    (refused : client.refusal? (client.endpoint.post (number + 1) request).body = some refusal)
    (world : σ) :
    client.call request number world = ((.error (.unwritten refusal), number + 1), world) := by
  change ((client.call request).run number).run world = _
  simp only [call, StateT.run_bind, StateT.run_get, StateT.run_set, pure_bind, refused]
  rfl

/-- In front of a node that serves an archive, a call takes one number and gives what the archive
says. -/
theorem call_of_served {archive : Archive} {fits : Int → Prop} (writes : client.Writes fits)
    (served : archive.ServedBy fits client.send) {query : Query}
    (asked : ∀ height ∈ query.height?, fits height) (zero : fits 0)
    (numbered : fits (number + 1 : Nat)) (world : σ) :
    ∃ later, client.call query.request number world =
      ((archive.answer query, number + 1), later) := by
  have plain := client.endpoint.plain_query (number + 1) zero numbered asked
  have gives := served _ query (client.endpoint.query?_post (number + 1) query) plain world
  rw [call_of_written (writes _ plain), Reply.result_of_gives gives]
  exact ⟨_, rfl⟩

end Client

/-! ## Printed replies -/

namespace Reply

def print (status : Nat) (value : Json) : Reply :=
  ⟨status, Text.Utf8.encode value.print.toList⟩

theorem json_print (status : Nat) {value : Json} (carried : value.Carried) :
    (print status value).json = .ok value := by
  rw [json, print, Json.print, Json.decode_printIn Json.Style.plain_line carried]
  change (Json.ofPoints (value.printIn .line)).mapError _ = _
  rw [Json.ofPoints_printIn Json.Style.plain_line carried]
  rfl

/-- The reply to the post with a number. A fault that is no refusal has no body. -/
def ofAnswer (number : Json) : Except Fault Json → Reply
  | .ok value => print 200 (.record [("result", value), ("error", .null), ("id", number)])
  | .error (.refused code message) =>
    print 500 (.record [("result", .null),
      ("error", .record [("code", code), ("message", message)]), ("id", number)])
  | .error _ => ⟨500, []⟩

def Printable : Except Fault Json → Prop
  | .ok value => value.Carried
  | .error (.refused code message) => code.Carried ∧ message.Carried
  | .error _ => False

theorem ofAnswer_gives {number : Json} (numbered : number.Carried) {answer : Except Fault Json}
    (printable : Printable answer) : (ofAnswer number answer).Gives answer := by
  cases answer with
  | ok value =>
    have carried : (Json.record [("result", value), ("error", .null), ("id", number)]).Carried := by
      refine .of_names ["result", "error", "id"] (by decide) rfl ?_
      simp only [List.forall_mem_cons]
      exact ⟨printable, .null, numbered, List.forall_mem_nil _⟩
    exact .result rfl (json_print 200 carried) rfl rfl
  | error fault =>
    cases fault with
    | refused code message =>
      have error : (Json.record [("code", code), ("message", message)]).Carried := by
        refine .of_names ["code", "message"] (by decide) rfl ?_
        simp only [List.forall_mem_cons]
        exact ⟨printable.1, printable.2, List.forall_mem_nil _⟩
      have carried : (Json.record [("result", .null),
          ("error", .record [("code", code), ("message", message)]), ("id", number)]).Carried := by
        refine .of_names ["result", "error", "id"] (by decide) rfl ?_
        simp only [List.forall_mem_cons]
        exact ⟨.null, error, numbered, List.forall_mem_nil _⟩
      exact .refusal rfl (json_print 500 carried) rfl rfl rfl
    | _ => exact printable.elim

end Reply

/-! ## A node that prints what an archive says -/

/-- The number of a post, unless it has too many digits to be read back. -/
def Post.number (post : Post) : Json :=
  match post.body.field? "id" with
  | some (.int number) => if Json.isShort number then .int number else .null
  | _ => .null

theorem Post.carried_number (post : Post) : post.number.Carried := by
  unfold number
  split
  · split
    · next short => exact .int short
    · exact .null
  · exact .null

theorem Json.carried_text (value : String) : (Json.text value).Carried :=
  .text (Points.whole_ofString value)

namespace Archive

variable {archive : Archive}

def reply (archive : Archive) (post : Post) : Reply :=
  match post.query? with
  | some query => .ofAnswer post.number (archive.answer query)
  | none => ⟨404, []⟩

theorem printable_answer (short : Json.isShort archive.tip = true) (query : Query) :
    Reply.Printable (archive.answer query) := by
  cases query with
  | tip => exact .int short
  | hashAt height =>
    change Reply.Printable ((archive.hashAt height).map Json.ofString)
    unfold hashAt
    split
    · exact Json.carried_text _
    · exact ⟨.int (by decide), Json.carried_text _⟩
  | textOf hash =>
    change Reply.Printable ((archive.textOf hash).map Json.ofString)
    unfold textOf
    split
    · exact Json.carried_text _
    · exact ⟨.int (by decide), Json.carried_text _⟩

/-- A node that prints what the archive says serves the archive, as long as the tip has no more digits
than are read back. -/
theorem servedBy_reply (short : Json.isShort archive.tip = true) {fits : Int → Prop} {σ : Type} :
    archive.ServedBy fits fun post => (return archive.reply post : StateM σ Reply) := by
  intro post query asked plain world
  change (archive.reply post).Gives (archive.answer query)
  rw [reply, asked]
  exact Reply.ofAnswer_gives post.carried_number (printable_answer short query)

end Archive

end SwapWatch
