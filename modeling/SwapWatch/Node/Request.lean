import SwapWatch.Block
import SwapWatch.Json.Basic
import SwapWatch.Json.Printer
import SwapWatch.Json.Reader
import SwapWatch.Text.Encoding
import SwapWatch.Wire.Reader

/-!
# Requests to a node

What a node is asked for, and why an answer may be missing.
-/

set_option autoImplicit false

/-! ## Requests -/

namespace SwapWatch

inductive Request where
  | blockCount
  | blockHash (height : Int)
  /-- The serialized block with a hash. The hash is passed on as the node gave it. -/
  | rawBlock (hash : Json)
deriving Inhabited

namespace Request

def method : Request → String
  | blockCount => "getblockcount"
  | blockHash _ => "getblockhash"
  | rawBlock _ => "getblock"

/-- The arguments of the method. A block is asked for in serialized form. -/
def arguments : Request → List Json
  | blockCount => []
  | blockHash height => [.int height]
  | rawBlock hash => [hash, .int 0]

end Request

/-!
## Faults

Why a block or another answer could not be had from a node. A request that cannot be written is never
sent.
-/

inductive Fault where
  | unwritten (refusal : Json.Refusal)
  /-- The reply has a status that is neither a success nor an internal error. -/
  | status (code : Nat)
  | notText (flaw : Text.Encoding.Flaw)
  | notJson
  /-- The body of the reply holds a whole number with too many digits. -/
  | oversized (digits : Nat)
  /-- The body of the reply, or the error in it, is no record. -/
  | notRecord
  /-- The result has another kind than the request asks for. -/
  | unusable
  | refused (code message : Json)
  | undecodable (error : Wire.DecodeError)
deriving Inhabited

def Fault.message : Fault → Text.Points
  | unwritten refusal => refusal.message
  | status code => toString code
  | notText flaw => flaw.message
  | notJson => Json.Reader.Flaw.form.message
  | oversized digits => (Json.Reader.Flaw.digits digits).message
  | notRecord => "the reply is no record"
  | unusable => "the reply has another kind of result"
  | refused code message => "RPC Error " ++ code.label ++ ": " ++ message.label
  | undecodable error => error.message

/-!
## Block sources

A chain is followed through its tip and its blocks. Asking for either may fail and may change the
source.
-/

/-- Where the tip and the blocks of a chain come from. -/
structure BlockSource (m : Type → Type) (ε : Type) where
  tip : m (Except ε Int)
  blockAt : Int → m (Except ε Block)

end SwapWatch
