import SwapWatch.Proofs.Node.Archive
import SwapWatch.Proofs.Node.Served

/-!
# Clients in front of an archive

A client whose node serves an archive gives, call by call, what the archive gives when it is asked
itself. Both are compared with what the archive says to one call, which no call changes.
-/

set_option autoImplicit false

namespace SwapWatch

variable {σ : Type} {archive : Archive}

/-- A call of a client, or of an archive in its place. -/
inductive NodeCall where
  | ask (query : Query)
  | blockAt (height : Int)
deriving DecidableEq, Repr

inductive NodeAnswer where
  | value (value : Json)
  | block (block : Block)

def NodeCall.height? : NodeCall → Option Int
  | ask query => query.height?
  | blockAt height => some height

/-- The answer has the kind that is asked for, and a block the height. -/
def NodeCall.Fits : NodeCall → NodeAnswer → Prop
  | ask _, .value _ => True
  | blockAt height, .block block => block.height = some height
  | _, _ => False

namespace Archive

/-- The block at a height, found through its hash. -/
def blockAt (archive : Archive) (height : Int) : Except Fault Block := do
  let hash ← archive.hashAt height
  let text ← archive.textOf hash
  (Block.ofHex text (some height)).mapError .undecodable

def perform (archive : Archive) : NodeCall → Except Fault NodeAnswer
  | .ask query => (archive.answer query).map .value
  | .blockAt height => (archive.blockAt height).map .block

theorem blockAt_of_ofHex {height : Int} {hash text : String} {block : Block}
    (hashed : archive.hashAt height = .ok hash) (known : archive.textOf hash = .ok text)
    (read : Block.ofHex text (some height) = .ok block) : archive.blockAt height = .ok block := by
  rw [blockAt, hashed]
  simp only [bind, Except.bind, known, read, Except.mapError]

theorem height_of_blockAt {height : Int} {block : Block}
    (found : archive.blockAt height = .ok block) : block.height = some height := by
  obtain ⟨requests, run⟩ := ArchiveNode.blockAt_eq height ⟨archive, []⟩
  exact ArchiveNode.source_heighted height ⟨archive, []⟩ block ((congrArg Prod.fst run).trans found)

theorem of_map_eq_ok {α β : Type} {read : Except Fault α} {name : α → β} {answer : β}
    (given : read.map name = .ok answer) : ∃ value, read = .ok value ∧ name value = answer := by
  cases read with
  | error fault => cases given
  | ok value => exact ⟨value, rfl, Except.ok.inj given⟩

theorem perform_fits {call : NodeCall} {answer : NodeAnswer}
    (given : archive.perform call = .ok answer) : call.Fits answer := by
  cases call with
  | ask query =>
    obtain ⟨value, -, rfl⟩ := of_map_eq_ok given
    exact True.intro
  | blockAt height =>
    obtain ⟨block, found, rfl⟩ := of_map_eq_ok given
    exact height_of_blockAt found

end Archive

namespace ArchiveNode

def ask : Query → StateM ArchiveNode (Except Fault Json)
  | .tip => do return .ok (.int (← blockCount))
  | .hashAt height => do return (← blockHash height).map Json.ofString
  | .textOf hash => do return (← rawBlock hash).map Json.ofString

def perform : NodeCall → StateM ArchiveNode (Except Fault NodeAnswer)
  | .ask query => do return (← ask query).map .value
  | .blockAt height => do return (← blockAt height).map .block

/-- A call gives what the archive says and leaves the archive as it is. -/
theorem perform_eq (call : NodeCall) (node : ArchiveNode) :
    ∃ requests, perform call node = (node.archive.perform call, ⟨node.archive, requests⟩) := by
  cases call with
  | ask query => cases query <;> exact ⟨_, rfl⟩
  | blockAt height =>
    obtain ⟨requests, run⟩ := blockAt_eq height node
    refine ⟨requests, ?_⟩
    change ((blockAt height node).1.map NodeAnswer.block, (blockAt height node).2) = _
    rw [run]
    rfl

theorem mapM_perform (calls : List NodeCall) (node : ArchiveNode) :
    (calls.mapM perform node).1 = calls.map node.archive.perform := by
  induction calls generalizing node with
  | nil => rfl
  | cons call calls ih =>
    obtain ⟨requests, run⟩ := perform_eq call node
    rw [List.mapM_cons]
    change (perform call node).1 :: (calls.mapM perform (perform call node).2).1 = _
    rw [run, ih]
    rfl

end ArchiveNode

namespace Client

variable {m : Type → Type} [Monad m]

def ask (client : Client m) : Query → StateT Nat m (Except Fault Json)
  | .tip => client.blockCount
  | .hashAt height => client.blockHash height
  | .textOf hash => client.rawBlock (.text hash)

def perform (client : Client m) : NodeCall → StateT Nat m (Except Fault NodeAnswer)
  | .ask query => do return (← client.ask query).map .value
  | .blockAt height => do return (← client.blockAt height).map .block

variable {client : Client (StateM σ)}

theorem decodeBlock_text (height : Int) (text : String) :
    decodeBlock height (.text text) = (Block.ofHex text (some height)).mapError .undecodable := by
  rw [decodeBlock, Text.Points.shown_ofString]

theorem ask_eq_call (client : Client m) (query : Query) :
    client.ask query = client.call query.request := by
  cases query <;> rfl

/-! ## Runs of calls -/

section Runs

variable {number middle last : Nat} {world between later : σ}

theorem perform_ask {query : Query} {answer : Except Fault Json}
    (run : client.ask query number world = ((answer, last), later)) :
    client.perform (.ask query) number world = ((answer.map .value, last), later) := by
  simp only [perform, bind, StateT.bind, run]
  rfl

theorem perform_blockAt {height : Int} {answer : Except Fault Block}
    (run : client.blockAt height number world = ((answer, last), later)) :
    client.perform (.blockAt height) number world = ((answer.map .block, last), later) := by
  simp only [perform, bind, StateT.bind, run]
  rfl

theorem blockAt_of_lost {height : Int} {fault : Fault}
    (first : client.blockHash height number world = ((.error fault, last), later)) :
    client.blockAt height number world = ((.error fault, last), later) := by
  simp only [blockAt, bind, StateT.bind, first]
  rfl

theorem blockAt_of_found {height : Int} {hash : Json} {answer : Except Fault Json}
    (first : client.blockHash height number world = ((.ok hash, middle), between))
    (second : client.rawBlock hash middle between = ((answer, last), later)) :
    client.blockAt height number world = ((answer.bind (decodeBlock height), last), later) := by
  simp only [blockAt, bind, StateT.bind, first, second]
  cases answer <;> rfl

end Runs

section Served

variable {fits : Int → Prop} (writes : client.Writes fits)
  (served : archive.ServedBy fits client.send)
include writes served

theorem ask_of_served {query : Query} (asked : ∀ height ∈ query.height?, fits height) {number : Nat}
    (counts : ∀ count : Nat, count ≤ number + 1 → fits count) (world : σ) :
    ∃ later, client.ask query number world = ((archive.answer query, number + 1), later) := by
  rw [ask_eq_call]
  exact call_of_served writes served asked (counts 0 (Nat.zero_le _)) (counts _ Nat.le.refl) world

/-- The second request is made for the hash that the archive has. -/
theorem blockAt_of_served {height : Int} (asked : fits height) {number : Nat}
    (counts : ∀ count : Nat, count ≤ number + 2 → fits count) (world : σ) :
    ∃ last later, last ≤ number + 2 ∧
      client.blockAt height number world = ((archive.blockAt height, last), later) := by
  have named : ∀ other ∈ (Query.hashAt height).height?, fits other := by
    intro other same
    cases same
    exact asked
  obtain ⟨middle, first⟩ := ask_of_served writes served named
    (fun count within => counts count (Nat.le_succ_of_le within)) world
  change client.blockHash height number world =
    (((archive.hashAt height).map Json.ofString, number + 1), middle) at first
  rw [Archive.blockAt]
  cases found : archive.hashAt height with
  | error fault =>
    rw [found] at first
    exact ⟨_, _, Nat.le_succ _, blockAt_of_lost first⟩
  | ok hash =>
    have unnamed : ∀ other ∈ (Query.textOf hash).height?, fits other := fun _ none => nomatch none
    obtain ⟨later, second⟩ := ask_of_served writes served unnamed counts middle
    rw [found] at first
    have decoded : (archive.answer (.textOf hash)).bind (decodeBlock height) =
        archive.textOf hash >>= fun text =>
          (Block.ofHex text (some height)).mapError .undecodable := by
      rw [Archive.answer]
      cases archive.textOf hash with
      | error fault => rfl
      | ok text =>
        simp only [Except.map, Except.bind, bind]
        exact decodeBlock_text height text
    have run := blockAt_of_found first second
    rw [decoded] at run
    exact ⟨_, later, Nat.le.refl, run⟩

/-- In front of a node that serves the archive, a call gives what the archive says. -/
theorem perform_of_served {call : NodeCall} (asked : ∀ height ∈ call.height?, fits height)
    {number : Nat} (counts : ∀ count : Nat, count ≤ number + 2 → fits count) (world : σ) :
    ∃ last later, last ≤ number + 2 ∧
      client.perform call number world = ((archive.perform call, last), later) := by
  cases call with
  | ask query =>
    obtain ⟨later, run⟩ := ask_of_served writes served asked
      (fun count within => counts count (Nat.le_succ_of_le within)) world
    exact ⟨number + 1, later, Nat.le_succ _, perform_ask run⟩
  | blockAt height =>
    obtain ⟨last, later, within, run⟩ := blockAt_of_served writes served (asked height rfl) counts world
    exact ⟨last, later, within, perform_blockAt run⟩

theorem mapM_perform {calls : List NodeCall}
    (asked : ∀ call ∈ calls, ∀ height ∈ call.height?, fits height) {number : Nat}
    (counts : ∀ count : Nat, count ≤ number + 2 * calls.length → fits count) (world : σ) :
    (calls.mapM client.perform number world).1.1 = calls.map archive.perform := by
  induction calls generalizing number world with
  | nil => rfl
  | cons call calls ih =>
    obtain ⟨first, further⟩ := List.forall_mem_cons.mp asked
    rw [List.length_cons] at counts
    have now (count : Nat) (below : count ≤ number + 2) : fits count := counts count (by omega)
    obtain ⟨last, later, within, run⟩ := perform_of_served writes served first now world
    have left (count : Nat) (below : count ≤ last + 2 * calls.length) : fits count :=
      counts count (by omega)
    have others := ih further left later
    rw [List.mapM_cons]
    change (client.perform call number world).1.1 :: (calls.mapM client.perform
      (client.perform call number world).1.2 (client.perform call number world).2).1.1 = _
    rw [run, others]
    rfl

end Served

/-- A client whose node serves the blocks offered to an archive gives what the archive gives, call by
call: the same values, the same blocks with the heights asked for, and the same faults. Which whole
numbers JSON carries is open, as long as the heights and the numbers of the requests are among them. -/
theorem refines_archive (client : Client (StateM σ)) (fits : Int → Prop) (writes : client.Writes fits)
    (offers : List (Int × String)) (served : (Archive.after {} offers).ServedBy fits client.send)
    (calls : List NodeCall) (asked : ∀ call ∈ calls, ∀ height ∈ call.height?, fits height)
    (number : Nat) (counts : ∀ count : Nat, count ≤ number + 2 * calls.length → fits count)
    (world : σ) (requests : List Request) :
    (calls.mapM client.perform number world).1.1 =
      (calls.mapM ArchiveNode.perform ⟨Archive.after {} offers, requests⟩).1 ∧
    List.Forall₂ (fun call result => ∀ answer, result = .ok answer → call.Fits answer) calls
      (calls.mapM client.perform number world).1.1 := by
  rw [mapM_perform writes served asked counts, ArchiveNode.mapM_perform]
  refine ⟨rfl, ?_⟩
  rw [List.forall₂_map_right_iff]
  exact List.forall₂_same.mpr fun call _ answer => Archive.perform_fits

/-- A header of zeros without transactions and then a text that is no block are offered. The node prints
its replies. -/
theorem refines_archive_printed :
    let text := Hex.encode (List.replicate 81 0)
    let hash := Header.hashOf (List.replicate 80 0)
    let offers := [(7, text), (8, "0g")]
    let client : Client (StateM Unit) :=
      { endpoint := {}
        refusal? := Json.refusal?
        send := fun post => return (Archive.after {} offers).reply post }
    let calls : List NodeCall := [.ask .tip, .ask (.hashAt 7), .blockAt 7, .blockAt 8]
    (calls.mapM client.perform 0 ()).1.1 =
        (calls.mapM ArchiveNode.perform ⟨Archive.after {} offers, []⟩).1 ∧
      (calls.mapM client.perform 0 ()).1.1 =
        [.ok (.value (.int 7)), .ok (.value (.text hash)), .ok (.block ⟨hash, some 7, []⟩),
          .error (.refused (.int (-8)) (.text "Block height 8 not found"))] := by
  intro text hash offers client calls
  have read (height : Option Int) : Block.ofHex text height = .ok ⟨hash, height, []⟩ :=
    Block.ofHex_encode (List.replicate 81 0) height
  clear_value text hash
  have filled : Archive.after {} offers = ⟨[(7, hash)], [(hash, text)]⟩ := by
    have added : Archive.add {} 7 text = .ok (hash, ⟨[(7, hash)], [(hash, text)]⟩) := by
      rw [Archive.add, read]
      rfl
    have refused (archive : Archive) : archive.add 8 "0g" = .error (.badHex .block ⟨1⟩) := rfl
    rw [Archive.after_accepted added, Archive.after_refused (refused _)]
    rfl
  let fits (number : Int) : Prop := Json.isShort number = true
  have writes : client.Writes fits := fun body writable => Json.refusal?_of_writable writable
  have served : (Archive.after {} offers).ServedBy fits client.send := by
    refine Archive.servedBy_reply ?_
    rw [filled]
    change Json.isShort 7 = true
    decide
  have asked : ∀ call ∈ calls, ∀ height ∈ call.height?, fits height := by
    decide
  have counts : ∀ count : Nat, count ≤ 0 + 2 * calls.length → fits count := by
    decide
  have refined := (refines_archive client fits writes offers served calls asked 0 counts () []).1
  refine ⟨refined, refined.trans ?_⟩
  have found : Archive.blockAt ⟨[(7, hash)], [(hash, text)]⟩ 7 = .ok ⟨hash, some 7, []⟩ := by
    have hashed : Archive.hashAt ⟨[(7, hash)], [(hash, text)]⟩ 7 = .ok hash := rfl
    have known : Archive.textOf ⟨[(7, hash)], [(hash, text)]⟩ hash = .ok text := by
      simp [Archive.textOf]
    exact Archive.blockAt_of_ofHex hashed known (read (some 7))
  rw [ArchiveNode.mapM_perform, filled]
  simp only [calls, List.map_cons, List.map_nil, Archive.perform, found]
  rfl

end Client

end SwapWatch
