import SwapWatch.Entries
import SwapWatch.Node.Request

/-!
# Block archives

An archive serves serialized blocks from memory as a node does. It knows the hash at each height and
the text of each hash, so one text may stand at several heights, and a later text with the same
header replaces an earlier one wherever it stands.
-/

set_option autoImplicit false

namespace SwapWatch

structure Archive where
  hashes : List (Int × String) := []
  texts : List (String × String) := []
deriving DecidableEq, Repr

namespace Archive

/-- Registers a text at a height and gives the hash of its block. A text that is no block is refused
and changes nothing. -/
def add (archive : Archive) (height : Int) (text : String) :
    Except Wire.DecodeError (String × Archive) := do
  let block ← Block.ofHex text none
  return (block.hash,
    ⟨Entries.set height block.hash archive.hashes, Entries.set block.hash text archive.texts⟩)

/-- The greatest registered height, or zero. -/
def tip (archive : Archive) : Int :=
  ((archive.hashes.map (·.1)).max?).getD 0

def hashAt (archive : Archive) (height : Int) : Except Fault String :=
  match archive.hashes.lookup height with
  | some hash => .ok hash
  | none => .error (.refused (.int (-8)) (.text s!"Block height {height} not found"))

def textOf (archive : Archive) (hash : String) : Except Fault String :=
  match archive.texts.lookup hash with
  | some text => .ok text
  | none => .error (.refused (.int (-5)) (.text s!"Block {hash} not found"))

end Archive

/-- An archive together with the requests that it has answered, first one first. -/
structure ArchiveNode where
  archive : Archive
  requests : List Request := []

namespace ArchiveNode

def note (request : Request) : StateM ArchiveNode Unit :=
  modify fun node => { node with requests := node.requests ++ [request] }

def blockCount : StateM ArchiveNode Int := do
  note .blockCount
  return (← get).archive.tip

def blockHash (height : Int) : StateM ArchiveNode (Except Fault String) := do
  note (.blockHash height)
  return (← get).archive.hashAt height

def rawBlock (hash : String) : StateM ArchiveNode (Except Fault String) := do
  note (.rawBlock (.text hash))
  return (← get).archive.textOf hash

/-- The block at a height. It is not asked for when the height is unknown. -/
def blockAt (height : Int) : StateM ArchiveNode (Except Fault Block) := do
  match ← blockHash height with
  | .error fault => return .error fault
  | .ok hash =>
    match ← rawBlock hash with
    | .error fault => return .error fault
    | .ok text => return (Block.ofHex text (some height)).mapError .undecodable

def source : BlockSource (StateM ArchiveNode) Fault where
  tip := .ok <$> blockCount
  blockAt := blockAt

end ArchiveNode

end SwapWatch
