import SwapWatch.Node.Archive
import SwapWatch.Proofs.Block.Layout
import SwapWatch.Proofs.Follow.Range
import SwapWatch.Proofs.Text.Hex
import SwapWatch.Proofs.Wire.Reader

/-!
# Archives

Texts are offered to an archive one by one, each at a height, and those that are no blocks are refused.
An archive that is followed gives the same blocks however often it is asked, each with the height that
it is asked for.
-/

set_option autoImplicit false

/-! ## Archives filled text by text -/

namespace SwapWatch

namespace Block

variable {text : String} {height : Option Int} {block : Block}

theorem ofHex_eq_ok_iff :
    ofHex text height = .ok block ↔
      ∃ raw, Hex.Writes (Text.trim text).toList raw ∧ ofBytes raw height = .ok block := by
  unfold ofHex Wire.Reader.runHex
  constructor
  · intro accepted
    cases decoded : Hex.decode (Text.trim text) with
    | ok raw =>
      rw [decoded] at accepted
      exact ⟨raw, Hex.decode_eq_ok_iff.mp decoded, accepted⟩
    | error flaw =>
      rw [decoded] at accepted
      cases accepted
  · intro ⟨raw, written, accepted⟩
    rw [Hex.decode_eq_ok_iff.mpr written]
    exact accepted

theorem ofHex_encode (raw : Bytes) (height : Option Int) :
    ofHex (Hex.encode raw) height = ofBytes raw height := by
  have decoded : Hex.decode (Text.trim (Hex.encode raw)) = .ok raw := by
    rw [Hex.decode_eq_ok_iff, Text.trim, String.toList_ofList, Hex.encode, String.toList_ofList]
    exact (Hex.Writes.digits raw).trimmed
  rw [ofHex, Wire.Reader.runHex, decoded]
  rfl

end Block

namespace Archive

variable {archive later : Archive}

/-- The archive after texts were offered one by one, each at a height. Those that are no blocks are
refused and change nothing. -/
def after (archive : Archive) : List (Int × String) → Archive
  | [] => archive
  | (height, text) :: offers =>
    match archive.add height text with
    | .ok (_, later) => later.after offers
    | .error _ => archive.after offers

theorem after_accepted {height : Int} {text hash : String}
    (accepted : archive.add height text = .ok (hash, later)) (offers : List (Int × String)) :
    archive.after ((height, text) :: offers) = later.after offers := by
  rw [after, accepted]

theorem after_refused {height : Int} {text : String} {flaw : Wire.DecodeError}
    (refused : archive.add height text = .error flaw) (offers : List (Int × String)) :
    archive.after ((height, text) :: offers) = archive.after offers := by
  rw [after, refused]

end Archive

/-! ## Archives as block sources -/

theorem Block.height_of_read {data rest : Bytes} {height : Option Int} {block : Block}
    (found : Block.read height data = .ok (block, rest)) : block.height = height := by
  obtain ⟨header, middle, -, found⟩ := Wire.Reader.bind_eq_ok_iff.mp found
  obtain ⟨transactions, last, -, made⟩ := Wire.Reader.bind_eq_ok_iff.mp found
  cases made
  rfl

theorem Block.height_of_ofHex {text : String} {height : Option Int} {block : Block}
    (accepted : Block.ofHex text height = .ok block) : block.height = height := by
  unfold Block.ofHex Wire.Reader.runHex at accepted
  split at accepted
  · obtain ⟨rest, run, -⟩ := Wire.Reader.runAll_eq_ok_iff.mp accepted
    exact Block.height_of_read run
  · cases accepted

namespace ArchiveNode

/-- Requests are noted, but the archive stays as it is. The block is asked for when its hash is
known. -/
theorem blockAt_run (height : Int) (node : ArchiveNode) :
    blockAt height node =
      (do
        let hash ← node.archive.hashAt height
        let text ← node.archive.textOf hash
        (Block.ofHex text (some height)).mapError .undecodable,
        ⟨node.archive, node.requests ++ match node.archive.hashAt height with
          | .ok hash => [.blockHash height, .rawBlock (.text hash)]
          | .error _ => [.blockHash height]⟩) := by
  have hashed : blockHash height node = (node.archive.hashAt height,
      { node with requests := node.requests ++ [.blockHash height] }) := rfl
  simp only [blockAt, bind, StateT.bind, hashed]
  -- Else unifying the two sides opens the decoder.
  generalize Block.ofHex = decode
  cases node.archive.hashAt height with
  | error fault => rfl
  | ok hash =>
    have written : ∀ node : ArchiveNode, rawBlock hash node = (node.archive.textOf hash,
        { node with requests := node.requests ++ [.rawBlock (.text hash)] }) := fun _ => rfl
    simp only [StateT.bind, written, Except.bind, List.append_assoc, List.cons_append,
      List.nil_append]
    cases node.archive.textOf hash with
    | error fault => rfl
    | ok text => rfl

theorem blockAt_eq (height : Int) (node : ArchiveNode) :
    ∃ requests, blockAt height node =
      (do
        let hash ← node.archive.hashAt height
        let text ← node.archive.textOf hash
        (Block.ofHex text (some height)).mapError .undecodable, ⟨node.archive, requests⟩) :=
  ⟨_, blockAt_run height node⟩

/-- The blocks of an archive carry the heights at which they are asked for. -/
theorem source_heighted : source.Heighted := by
  intro height node block served
  obtain ⟨requests, run⟩ := blockAt_eq height node
  change (blockAt height node).1 = .ok block at served
  rw [run] at served
  cases hashed : node.archive.hashAt height with
  | error fault =>
    rw [hashed] at served
    cases served
  | ok hash =>
    cases written : node.archive.textOf hash with
    | error fault =>
      simp only [hashed, written, bind, Except.bind] at served
      cases served
    | ok text =>
      simp only [hashed, written, bind, Except.bind] at served
      cases decoded : Block.ofHex text (some height) with
      | error flaw =>
        rw [decoded] at served
        cases served
      | ok found =>
        rw [decoded] at served
        cases served
        exact Block.height_of_ofHex decoded

theorem archive_after (node : ArchiveNode) (heights : List Int) :
    (source.after node heights).archive = node.archive := by
  induction heights generalizing node with
  | nil => rfl
  | cons height heights ih =>
    obtain ⟨requests, run⟩ := blockAt_eq height node
    have kept : (blockAt height node).2.archive = node.archive := by rw [run]
    exact (ih (blockAt height node).2).trans kept

theorem source_steady (node : ArchiveNode) : source.Steady node := by
  intro heights
  funext height
  obtain ⟨requests, later⟩ := blockAt_eq height (source.after node heights)
  obtain ⟨requests', now⟩ := blockAt_eq height node
  change (blockAt height (source.after node heights)).1 = (blockAt height node).1
  rw [later, now, archive_after]

end ArchiveNode

end SwapWatch
