import SwapWatch.Json.Printer
import SwapWatch.Json.Reader
import SwapWatch.Node.Address
import SwapWatch.Node.Request

/-!
# Node client

A client asks a node over HTTP with JSON bodies. Every request has the number after the last one,
whatever became of that one, even if its body was refused and never sent; which bodies are refused is a
matter of the HTTP library. A node answers a refused request with an internal error and a body that
names the refusal, so this status is not taken for a failure of its own.
-/

set_option autoImplicit false

namespace SwapWatch

structure Endpoint where
  url : String := "http://localhost:8332"
  user : String := ""
  password : String := ""
  /-- The time to wait for a reply, in seconds. -/
  timeout : Float := 30.0

structure Post where
  url : String
  authorization : Option String
  body : Json

structure Reply where
  status : Nat
  body : Bytes
deriving DecidableEq, Repr

/-- User and password for a node: those given, if neither is empty, or else those in its address. -/
def Endpoint.credentials? (endpoint : Endpoint) : Option (String × String) :=
  if endpoint.user ≠ "" ∧ endpoint.password ≠ "" then some (endpoint.user, endpoint.password)
  else Address.credentials? endpoint.url

def Endpoint.authorization (endpoint : Endpoint) : Option String :=
  endpoint.credentials?.map fun (user, password) =>
    "Basic " ++ Text.Base64.encode (user ++ ":" ++ password).toUTF8.toList

def Endpoint.post (endpoint : Endpoint) (number : Nat) (request : Request) : Post where
  url := endpoint.url
  authorization := endpoint.authorization
  body := .record
    [("jsonrpc", .text "1.0"), ("id", .int number), ("method", .text request.method),
     ("params", .list request.arguments)]

namespace Reply

def isAnswer (reply : Reply) : Bool :=
  reply.status = 500 || (200 ≤ reply.status && reply.status < 300)

/-- The refusal that a telling error stands for. -/
def refusal : Json → Fault
  | .record fields =>
    .refused ((Json.fieldIn? "code" fields).getD (.int (-1)))
      ((Json.fieldIn? "message" fields).getD (.text "Unknown error"))
  | _ => .notRecord

def json (reply : Reply) : Except Fault Json := do
  let text ← (Text.Encoding.decode reply.body).mapError .notText
  (Json.ofPoints text).mapError fun
    | .form => .notJson
    | .digits count => .oversized count

def resultIn : Json → Except Fault Json
  | .record fields =>
    let error := (Json.fieldIn? "error" fields).getD .null
    if error.isTelling then .error (refusal error)
    else .ok ((Json.fieldIn? "result" fields).getD .null)
  | _ => .error .notRecord

def result (reply : Reply) : Except Fault Json :=
  if reply.isAnswer then reply.json >>= resultIn else .error (.status reply.status)

end Reply

structure Client (m : Type → Type) where
  endpoint : Endpoint
  /-- Why a body cannot be written, if it cannot. -/
  refusal? : Json → Option Json.Refusal
  send : Post → m Reply

namespace Client

variable {m : Type → Type} [Monad m]

/-- Sends a request, if it can be written, and reads its result. The state is the number of requests so
far. -/
def call (client : Client m) (request : Request) : StateT Nat m (Except Fault Json) := do
  let number := (← get) + 1
  set number
  let post := client.endpoint.post number request
  match client.refusal? post.body with
  | some refusal => return .error (.unwritten refusal)
  | none =>
    let reply ← client.send post
    return reply.result

def blockCount (client : Client m) : StateT Nat m (Except Fault Json) :=
  client.call .blockCount

def blockHash (client : Client m) (height : Int) : StateT Nat m (Except Fault Json) :=
  client.call (.blockHash height)

def rawBlock (client : Client m) (hash : Json) : StateT Nat m (Except Fault Json) :=
  client.call (.rawBlock hash)

def decodeBlock (height : Int) : Json → Except Fault Block
  | .text text => (Block.ofHex text.shown (some height)).mapError .undecodable
  | _ => .error .unusable

/-- The block at a height. It is not asked for when its hash cannot be had. -/
def blockAt (client : Client m) (height : Int) : StateT Nat m (Except Fault Block) := do
  match ← client.blockHash height with
  | .error fault => return .error fault
  | .ok hash =>
    match ← client.rawBlock hash with
    | .error fault => return .error fault
    | .ok raw => return decodeBlock height raw

def source (client : Client m) : BlockSource (StateT Nat m) Fault where
  tip := do
    match ← client.blockCount with
    | .ok (.int height) => return .ok height
    | .ok _ => return .error .unusable
    | .error fault => return .error fault
  blockAt := client.blockAt

end Client

end SwapWatch
