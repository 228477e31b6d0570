import SwapWatch.Proofs.Node.Archive

/-!
# What a filled archive serves

An archive knows a hash for each height and a text for each hash, so the block at a height is found
in two steps: the block last accepted there gives the hash, and the text last accepted with this
hash, at whatever height, gives the transactions.
-/

set_option autoImplicit false

namespace SwapWatch

theorem Block.ofHex_at {text : String} {block : Block} (read : ofHex text none = .ok block)
    (height : Option Int) : ofHex text height = .ok { block with height := height } := by
  obtain ⟨raw, written, read⟩ := ofHex_eq_ok_iff.mp read
  refine ofHex_eq_ok_iff.mpr ⟨raw, written, ?_⟩
  rw [ofBytes_eq_ok_iff, spells_read_iff] at read ⊢
  obtain ⟨header, form, parts, eighty, room, spelled, each, made⟩ := read
  refine ⟨header, form, parts, eighty, room, spelled, each, ?_⟩
  rw [made]

namespace Archive

variable {archive later : Archive} {blocks : List (Int × Block)}

/-- The blocks among the offered texts, in order, with the heights at which they were offered. -/
def accepted (offers : List (Int × String)) : List (Int × Block) :=
  offers.filterMap fun offer => (Block.ofHex offer.2 none).toOption.map (offer.1, ·)

/-- The last of the blocks with a property. -/
def lastWhere? (p : Int × Block → Bool) (blocks : List (Int × Block)) : Option Block :=
  (blocks.reverse.find? p).map (·.2)

theorem lastWhere?_append (p : Int × Block → Bool) (entry : Int × Block) :
    lastWhere? p (blocks ++ [entry]) = if p entry then some entry.2 else lastWhere? p blocks := by
  rw [lastWhere?, List.reverse_append, List.reverse_singleton, List.singleton_append,
    List.find?_cons]
  cases p entry with
  | true => rfl
  | false => rfl

theorem exists_lastWhere? {p : Int × Block → Bool} {entry : Int × Block} (member : entry ∈ blocks)
    (has : p entry = true) :
    ∃ last ∈ blocks, lastWhere? p blocks = some last.2 ∧ p last = true := by
  cases found : blocks.reverse.find? p with
  | none =>
    have absent := List.find?_eq_none.mp found entry (List.mem_reverse.mpr member)
    exact absurd has absent
  | some last =>
    refine ⟨last, List.mem_reverse.mp (List.mem_of_find?_eq_some found), ?_, ?_⟩
    · rw [lastWhere?, found]
      rfl
    · exact List.find?_some found

theorem lastWhere?_eq_none {p : Int × Block → Bool} (none : ∀ entry ∈ blocks, p entry = false) :
    lastWhere? p blocks = .none := by
  rw [lastWhere?, Option.map_eq_none_iff, List.find?_eq_none]
  intro entry member
  rw [none entry (List.mem_reverse.mp member)]
  exact Bool.false_ne_true

/-! ## The archive and the accepted blocks -/

/-- The archive holds what is left of the blocks when later ones have replaced earlier ones. -/
structure Holds (archive : Archive) (blocks : List (Int × Block)) : Prop where
  hashes : ∀ height, archive.hashes.lookup height =
    (lastWhere? (height = ·.1) blocks).map (·.hash)
  texts : ∀ hash, (archive.texts.lookup hash).map (Block.ofHex · none) =
    (lastWhere? (hash = ·.2.hash) blocks).map .ok
  heights : ∀ height, height ∈ archive.hashes.map (·.1) ↔ height ∈ blocks.map (·.1)

theorem holds_empty : Holds {} [] := by
  constructor
  · intro height
    rfl
  · intro hash
    rfl
  · intro height
    exact Iff.rfl

theorem Holds.add (holds : archive.Holds blocks) {height : Int} {text : String} {block : Block}
    (read : Block.ofHex text none = .ok block) :
    Holds ⟨Entries.set height block.hash archive.hashes, Entries.set block.hash text archive.texts⟩
      (blocks ++ [(height, block)]) := by
  constructor
  · intro other
    rw [Entries.lookup_set, lastWhere?_append, holds.hashes]
    simp only [decide_eq_true_eq]
    split <;> rfl
  · intro hash
    rw [Entries.lookup_set, lastWhere?_append]
    simp only [decide_eq_true_eq]
    split
    · rw [Option.map_some, Option.map_some, read]
    · exact holds.texts hash
  · intro other
    rw [Entries.keys_set, List.map_append, List.mem_append, ← holds.heights other]
    split
    · next known =>
      simp only [List.map_cons, List.map_nil, List.mem_singleton]
      constructor
      · exact .inl
      · intro either
        cases either with
        | inl old => exact old
        | inr same => exact same ▸ known
    · rw [List.mem_append]
      rfl

theorem accepted_append (offers further : List (Int × String)) :
    accepted (offers ++ further) = accepted offers ++ accepted further :=
  List.filterMap_append

theorem accepted_cons_of_ok {height : Int} {text : String} {block : Block}
    (read : Block.ofHex text none = .ok block) (offers : List (Int × String)) :
    accepted ((height, text) :: offers) = (height, block) :: accepted offers := by
  refine List.filterMap_cons_some ?_
  rw [read]
  rfl

theorem accepted_cons_of_error {height : Int} {text : String} {flaw : Wire.DecodeError}
    (read : Block.ofHex text none = .error flaw) (offers : List (Int × String)) :
    accepted ((height, text) :: offers) = accepted offers := by
  refine List.filterMap_cons_none ?_
  rw [read]
  rfl

theorem add_of_ok {text : String} {block : Block} (read : Block.ofHex text none = .ok block)
    (archive : Archive) (height : Int) :
    archive.add height text = .ok (block.hash,
      ⟨Entries.set height block.hash archive.hashes, Entries.set block.hash text archive.texts⟩) := by
  rw [Archive.add, read]
  rfl

theorem add_of_error {text : String} {flaw : Wire.DecodeError}
    (read : Block.ofHex text none = .error flaw) (archive : Archive) (height : Int) :
    archive.add height text = .error flaw := by
  rw [Archive.add, read]
  rfl

/-- One accepted text keeps the archive in step with the accepted blocks, and so do all. -/
theorem Holds.after (holds : archive.Holds blocks) (offers : List (Int × String)) :
    (archive.after offers).Holds (blocks ++ accepted offers) := by
  induction offers generalizing archive blocks with
  | nil =>
    rw [accepted, List.filterMap_nil, List.append_nil]
    exact holds
  | cons offer offers ih =>
    obtain ⟨height, text⟩ := offer
    cases read : Block.ofHex text none with
    | error flaw =>
      rw [accepted_cons_of_error read, after_refused (add_of_error read archive height)]
      exact ih holds
    | ok block =>
      rw [accepted_cons_of_ok read, after_accepted (add_of_ok read archive height),
        List.append_cons]
      exact ih (holds.add read)

theorem after_append (archive : Archive) (offers others : List (Int × String)) :
    archive.after (offers ++ others) = (archive.after offers).after others := by
  induction offers generalizing archive with
  | nil => rfl
  | cons offer offers ih =>
    obtain ⟨height, text⟩ := offer
    cases added : archive.add height text with
    | error flaw =>
      rw [List.cons_append, after_refused added, after_refused added, ih]
    | ok found =>
      rw [List.cons_append, after_accepted added, after_accepted added, ih]

/-! ## What is served -/

theorem Holds.blockAt_of_known (holds : archive.Holds blocks) {height : Int}
    (known : height ∈ blocks.map (·.1)) (requests : List Request) :
    ∃ block body, lastWhere? (height = ·.1) blocks = some block ∧
      lastWhere? (block.hash = ·.2.hash) blocks = some body ∧
      ArchiveNode.blockAt height ⟨archive, requests⟩ =
        (.ok ⟨block.hash, some height, body.transactions⟩,
          ⟨archive, requests ++ [.blockHash height, .rawBlock (.text block.hash)]⟩) := by
  obtain ⟨entry, member, here⟩ := List.mem_map.mp known
  obtain ⟨⟨_, block⟩, member, last, -⟩ := exists_lastWhere? (p := fun entry => height = entry.1)
    member (decide_eq_true here.symm)
  obtain ⟨⟨_, body⟩, -, found, same⟩ := exists_lastWhere? (p := fun entry => block.hash = entry.2.hash)
    member (decide_eq_true rfl)
  refine ⟨block, body, last, found, ?_⟩
  have hashed : archive.hashAt height = .ok block.hash := by
    rw [hashAt, holds.hashes, last]
    rfl
  have held := holds.texts block.hash
  rw [found, Option.map_some, Option.map_eq_some_iff] at held
  obtain ⟨text, stored, read⟩ := held
  have written : archive.textOf block.hash = .ok text := by
    rw [textOf, stored]
  have served : Block.ofHex text (some height) =
      .ok ⟨block.hash, some height, body.transactions⟩ := by
    rw [of_decide_eq_true same]
    exact Block.ofHex_at read (some height)
  rw [ArchiveNode.blockAt_run, hashed]
  simp only [bind, Except.bind, written, served, Except.mapError]

theorem Holds.blockAt_of_unknown (holds : archive.Holds blocks) {height : Int}
    (unknown : height ∉ blocks.map (·.1)) (requests : List Request) :
    ArchiveNode.blockAt height ⟨archive, requests⟩ =
      (.error (.refused (.int (-8)) (.text s!"Block height {height} not found")),
        ⟨archive, requests ++ [.blockHash height]⟩) := by
  have none : lastWhere? (height = ·.1) blocks = none := by
    refine lastWhere?_eq_none fun entry member => decide_eq_false fun here => unknown ?_
    exact here ▸ List.mem_map_of_mem member
  have hashed : archive.hashAt height =
      .error (.refused (.int (-8)) (.text s!"Block height {height} not found")) := by
    rw [hashAt, holds.hashes, none]
    rfl
  rw [ArchiveNode.blockAt_run, hashed]
  rfl

theorem Holds.tip_of_none (holds : archive.Holds []) : archive.tip = 0 := by
  have none : archive.hashes.map (·.1) = [] := by
    rw [List.eq_nil_iff_forall_not_mem]
    intro height member
    cases (holds.heights height).mp member
  rw [tip, none]
  rfl

theorem Holds.tip_of_some (holds : archive.Holds blocks) (some : blocks ≠ []) :
    archive.tip ∈ blocks.map (·.1) ∧ ∀ height ∈ blocks.map (·.1), height ≤ archive.tip := by
  obtain ⟨entry, member⟩ := List.exists_mem_of_ne_nil blocks some
  have known := (holds.heights entry.1).mpr (List.mem_map_of_mem member)
  obtain ⟨greatest, found⟩ := Option.isSome_iff_exists.mp
    (List.isSome_max?_of_mem known)
  obtain ⟨present, above⟩ := List.max?_eq_some_iff.mp found
  have shown : archive.tip = greatest := by
    rw [tip, found]
    rfl
  rw [shown]
  refine ⟨(holds.heights greatest).mp present, ?_⟩
  intro height other
  exact above height ((holds.heights height).mpr other)

/-- An archive takes the texts that are blocks and gives their hashes; others change nothing. At a
height where a block was accepted it serves the last hash accepted there, with the transactions of the
last block accepted with this hash. Of other heights it knows nothing and asks for no block. The tip
is the greatest height where a block was accepted. -/
theorem filled_serves_last (offers : List (Int × String)) (requests : List Request) :
    let archive := after {} offers
    let blocks := accepted offers
    (∀ height text, match Block.ofHex text none with
      | .ok block => ∃ later, archive.add height text = .ok (block.hash, later) ∧
          after {} (offers ++ [(height, text)]) = later ∧
          accepted (offers ++ [(height, text)]) = blocks ++ [(height, block)]
      | .error flaw => archive.add height text = .error flaw ∧
          after {} (offers ++ [(height, text)]) = archive ∧
          accepted (offers ++ [(height, text)]) = blocks) ∧
    (∀ height ∈ blocks.map (·.1), ∃ block body,
      lastWhere? (height = ·.1) blocks = some block ∧
        lastWhere? (block.hash = ·.2.hash) blocks = some body ∧
        ArchiveNode.blockAt height ⟨archive, requests⟩ =
          (.ok ⟨block.hash, some height, body.transactions⟩,
            ⟨archive, requests ++ [.blockHash height, .rawBlock (.text block.hash)]⟩)) ∧
    (∀ height ∉ blocks.map (·.1),
      ArchiveNode.blockAt height ⟨archive, requests⟩ =
        (.error (.refused (.int (-8)) (.text s!"Block height {height} not found")),
          ⟨archive, requests ++ [.blockHash height]⟩)) ∧
    ∃ tip, ArchiveNode.blockCount ⟨archive, requests⟩ =
        (tip, ⟨archive, requests ++ [.blockCount]⟩) ∧
      (blocks = [] → tip = 0) ∧
      (blocks ≠ [] → tip ∈ blocks.map (·.1) ∧ ∀ height ∈ blocks.map (·.1), height ≤ tip) := by
  intro archive blocks
  have holds : archive.Holds blocks := holds_empty.after offers
  refine ⟨?_, ?_, ?_, archive.tip, rfl, ?_, holds.tip_of_some⟩
  · intro height text
    have added := after_append {} offers [(height, text)]
    have taken := accepted_append offers [(height, text)]
    cases read : Block.ofHex text none with
    | ok block =>
      refine ⟨_, add_of_ok read archive height, ?_, ?_⟩
      · rw [added, after_accepted (add_of_ok read _ height)]
        rfl
      · exact taken.trans (congrArg (blocks ++ ·) (accepted_cons_of_ok read []))
    | error flaw =>
      refine ⟨add_of_error read archive height, ?_, ?_⟩
      · rw [added, after_refused (add_of_error read _ height)]
        rfl
      · rw [← List.append_nil blocks]
        exact taken.trans (congrArg (blocks ++ ·) (accepted_cons_of_error read []))
  · intro height known
    exact holds.blockAt_of_known known requests
  · intro height unknown
    exact holds.blockAt_of_unknown unknown requests
  · intro none
    rw [none] at holds
    exact holds.tip_of_none

/-- A later text with the same header changes the block at a height, and a text that is no block does
not. -/
theorem filled_serves_last_replaced :
    let empty := Hex.encode (List.replicate 81 0)
    let full := Hex.encode (List.replicate 80 0 ++ 1 :: List.replicate 10 0)
    let hash := Header.hashOf (List.replicate 80 0)
    let offers := [(7, empty), (8, "0g"), (5, full)]
    let node : ArchiveNode := ⟨after {} offers, []⟩
    ∃ transaction,
      (ArchiveNode.blockAt 7 node).1 = .ok ⟨hash, some 7, [transaction]⟩ ∧
      (ArchiveNode.blockAt 8 node).1 =
        .error (.refused (.int (-8)) (.text "Block height 8 not found")) ∧
      (ArchiveNode.blockCount node).1 = 7 := by
  intro empty full hash offers node
  have readEmpty : Block.ofHex empty none = .ok ⟨hash, none, []⟩ := Block.ofHex_encode _ none
  obtain ⟨transaction, readFull⟩ : ∃ transaction,
      Block.ofHex full none = .ok ⟨hash, none, [transaction]⟩ := ⟨_, Block.ofHex_encode _ none⟩
  have readBad : Block.ofHex "0g" none = .error (.badHex .block ⟨1⟩) := rfl
  refine ⟨transaction, ?_⟩
  clear_value empty full hash
  obtain ⟨-, known, unknown, tip, counted, -, greatest⟩ := filled_serves_last offers []
  have taken : accepted offers = [(7, ⟨hash, none, []⟩), (5, ⟨hash, none, [transaction]⟩)] := by
    rw [accepted_cons_of_ok readEmpty, accepted_cons_of_error readBad, accepted_cons_of_ok readFull]
    rfl
  simp only [taken, List.map_cons, List.map_nil] at known unknown greatest
  obtain ⟨block, body, last, found, served⟩ := known 7 (by decide)
  cases last
  have later : lastWhere? (hash = ·.2.hash)
      [(7, ⟨hash, none, []⟩), (5, ⟨hash, none, [transaction]⟩)] =
        some ⟨hash, none, [transaction]⟩ := by
    simp [lastWhere?]
  rw [later] at found
  cases found
  refine ⟨congrArg Prod.fst served, congrArg Prod.fst (unknown 8 (by decide)), ?_⟩
  obtain ⟨member, above⟩ := greatest (List.cons_ne_nil _ _)
  have seven := above 7 (by decide)
  rw [counted]
  simp only [List.mem_cons, List.not_mem_nil, or_false] at member
  change tip = 7
  omega

end Archive

end SwapWatch
