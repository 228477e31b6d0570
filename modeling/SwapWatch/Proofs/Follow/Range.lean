import SwapWatch.Proofs.Detection.Agreement
import SwapWatch.Proofs.Follow.ExactlyOnce

/-!
# Ranges block by block

While a source is asked for blocks and does not change, the batches in which a range is fetched do
not show in what the scan gives: it is what one block after another gives, and where a block is
missing it is the fault of the lowest one.
-/

set_option autoImplicit false

namespace SwapWatch

variable {σ ε δ : Type}

def heightsTo (first last : Int) : List Int :=
  heightsFrom first (last - first + 1).toNat

theorem mem_heightsTo {first last height : Int} :
    height ∈ heightsTo first last ↔ first ≤ height ∧ height ≤ last := by
  simp only [heightsTo, heightsFrom, List.mem_map, List.mem_range]
  constructor
  · rintro ⟨offset, small, rfl⟩
    omega
  · rintro ⟨low, high⟩
    exact ⟨(height - first).toNat, by omega, by omega⟩

/-! ## Collected answers -/

section Collected

variable {α β : Type}

theorem mapM_flatten (f : α → Except ε β) (groups : List (List α)) :
    groups.flatten.mapM f = (groups.mapM (List.mapM f)).map List.flatten := by
  induction groups with
  | nil => rfl
  | cons group groups ih =>
    rw [List.flatten_cons, List.mapM_append, List.mapM_cons, ih]
    cases group.mapM f with
    | error fault => rfl
    | ok found =>
      cases groups.mapM (List.mapM f) with
      | error fault => rfl
      | ok others => rfl

theorem mapM_eq_ok_map {f : α → Except ε β} {g : α → β} {items : List α}
    (each : ∀ item ∈ items, f item = .ok (g item)) : items.mapM f = .ok (items.map g) := by
  induction items with
  | nil => rfl
  | cons item items ih =>
    obtain ⟨head, tail⟩ := List.forall_mem_cons.mp each
    rw [List.mapM_cons, head, ih tail]
    rfl

theorem mapM_eq_error {f : Int → Except ε β} {items : List Int} (rising : items.Pairwise (· < ·))
    {lowest : Int} (member : lowest ∈ items) {fault : ε} (fails : f lowest = .error fault)
    (lower : ∀ item ∈ items, item < lowest → ∃ value, f item = .ok value) :
    items.mapM f = .error fault := by
  induction items with
  | nil => cases member
  | cons item items ih =>
    obtain ⟨below, rising⟩ := List.pairwise_cons.mp rising
    cases member with
    | head =>
      rw [List.mapM_cons, fails]
      rfl
    | tail _ member =>
      obtain ⟨head, tail⟩ := List.forall_mem_cons.mp lower
      obtain ⟨value, found⟩ := head (below lowest member)
      rw [List.mapM_cons, found, ih rising member tail]
      rfl

end Collected

/-! ## Steady sources -/

namespace BlockSource

variable {source : BlockSource (StateM σ) ε} {world : σ}

def answer (source : BlockSource (StateM σ) ε) (world : σ) (height : Int) : Except ε Block :=
  (source.blockAt height world).1

def Complete (source : BlockSource (StateM σ) ε) (world : σ) (first last : Int) : Prop :=
  ∀ height, first ≤ height → height ≤ last → ∃ block, source.answer world height = .ok block

theorem Complete.blocks {first last : Int} (complete : source.Complete world first last) :
    ∃ blocks : Int → Block,
      ∀ height ∈ heightsTo first last, source.answer world height = .ok (blocks height) := by
  refine ⟨fun height => (source.answer world height).toOption.getD ⟨"", none, []⟩, ?_⟩
  intro height member
  obtain ⟨low, high⟩ := mem_heightsTo.mp member
  obtain ⟨block, found⟩ := complete height low high
  simp only [found]
  rfl

/-- The world after the blocks at these heights were asked for. -/
def after (source : BlockSource (StateM σ) ε) (world : σ) (heights : List Int) : σ :=
  heights.foldl (fun world height => (source.blockAt height world).2) world

/-- Asking for blocks does not change what the source answers. -/
def Steady (source : BlockSource (StateM σ) ε) (world : σ) : Prop :=
  ∀ heights, source.answer (source.after world heights) = source.answer world

theorem Steady.after (steady : source.Steady world) (heights : List Int) :
    source.Steady (source.after world heights) := by
  intro later
  have joined : source.after (source.after world heights) later =
      source.after world (heights ++ later) := (List.foldl_append ..).symm
  rw [joined, steady, steady]

def notes (source : BlockSource (StateM σ) ε) (world : σ) (heights : List Int) : Journal ε δ :=
  heights.map fun height => .block height (source.answer world height)

theorem asked_notes (source : BlockSource (StateM σ) ε) (world : σ) (heights : List Int) :
    Journal.asked (source.notes world heights : Journal ε δ) = heights := by
  induction heights with
  | nil => rfl
  | cons height heights ih => exact congrArg (height :: ·) ih

theorem Steady.fetch_noted (steady : source.Steady world) (heights : List Int)
    (journal : Journal ε δ) :
    source.noted.fetch heights (world, journal) =
      (heights.mapM (source.answer world), source.after world heights,
        journal ++ source.notes world heights) := by
  induction heights generalizing world journal with
  | nil =>
    change _ = (_, _, journal ++ [])
    rw [List.append_nil]
    rfl
  | cons height heights ih =>
    have asked : source.noted.blockAt height (world, journal) = (source.answer world height,
      source.after world [height], journal ++ [.block height (source.answer world height)]) := rfl
    simp only [fetch, bind, StateT.bind, asked]
    rw [ih (steady.after [height]), notes, steady, List.append_assoc, List.mapM_cons]
    rfl

theorem Heighted.heights_of_mapM (heighted : source.Heighted) {heights : List Int}
    {blocks : List Block} (collected : heights.mapM (source.answer world) = .ok blocks) :
    blocks.map (·.height) = heights.map some := by
  induction heights generalizing blocks with
  | nil =>
    cases collected
    rfl
  | cons height heights ih =>
    obtain ⟨block, rest, answered, others, rfl⟩ := mapM_cons_eq_ok_iff.mp collected
    rw [List.map_cons, List.map_cons, ih others, heighted height world block answered]

end BlockSource

/-! ## Scans in groups and in single steps -/

namespace Policy

section Loops

variable {m : Type → Type} [Monad m]

def scanGroups (policy : Policy) (source : BlockSource m ε) :
    List (List Int) → m (Logged ε (List Sighting))
  | [] => return ⟨.ok [], []⟩
  | group :: groups => do
    match ← source.fetch group with
    | .error fault => return ⟨.error fault, []⟩
    | .ok blocks =>
      let others ← policy.scanGroups source groups
      return ⟨others.result.map (policy.scanBlocks blocks ++ ·),
        policy.logBlocks blocks ++ others.log⟩

/-- Fetches and scans one block after another, each event under the height asked for. -/
def scanEach (policy : Policy) (source : BlockSource m ε) :
    List Int → m (Except ε (List Sighting))
  | [] => return .ok []
  | height :: heights => do
    match (← policy.scanAt source height).result with
    | .error fault => return .error fault
    | .ok found =>
      let others ← policy.scanEach source heights
      return others.map (found.events.map (some height, ·) ++ ·)

/-- A scan of a range is one in groups of consecutive heights, none greater than a batch. -/
theorem scanFrom_eq_scanGroups (policy : Policy) (source : BlockSource m ε) (first : Int)
    (count : Nat) :
    ∃ groups : List (List Int), groups.flatten = heightsFrom first count ∧
      (∀ group ∈ groups, group ≠ [] ∧ group.length ≤ policy.batchSize) ∧
      policy.scanFrom source first count = policy.scanGroups source groups := by
  induction count using Nat.strongRecOn generalizing first with
  | ind count ih =>
    rw [scanFrom.eq_def]
    by_cases empty : count = 0
    · refine ⟨[], ?_, by simp, if_pos empty⟩
      rw [empty]
      rfl
    · have positive := policy.batchSize_pos
      have some : 0 < min policy.batchSize count := by omega
      have fits : min policy.batchSize count ≤ count := Nat.min_le_right ..
      have small : min policy.batchSize count ≤ policy.batchSize := Nat.min_le_left ..
      generalize min policy.batchSize count = width at some fits small
      obtain ⟨groups, joined, bounded, later⟩ := ih (count - width) (by omega) (first + width)
      refine ⟨heightsFrom first width :: groups, ?_, ?_, ?_⟩
      · rw [List.flatten_cons, joined, heightsFrom_append, Nat.add_sub_cancel' fits]
      · rw [List.forall_mem_cons]
        refine ⟨⟨?_, ?_⟩, bounded⟩
        · exact List.ne_nil_of_length_pos (by rwa [length_heightsFrom])
        · rwa [length_heightsFrom]
      · simp only [if_neg empty, later]
        rfl

end Loops

variable {policy : Policy} {source : BlockSource (StateM σ) ε} {world : σ}

theorem scanGroups_noted (policy : Policy) (steady : source.Steady world)
    (groups : List (List Int)) (journal : Journal ε δ) :
    ∃ (log : List LogEntry) (after : σ) (notes : Journal ε δ),
      policy.scanGroups source.noted groups (world, journal) =
        (⟨(groups.mapM (List.mapM (source.answer world))).map (·.flatMap policy.scanBlocks), log⟩,
          after, journal ++ notes) ∧
      ((groups.mapM (List.mapM (source.answer world))).isOk → notes.asked = groups.flatten) := by
  induction groups generalizing world journal with
  | nil => exact ⟨[], world, [], by rw [List.append_nil]; rfl, fun _ => rfl⟩
  | cons group groups ih =>
    simp only [scanGroups, bind, StateT.bind, steady.fetch_noted]
    rw [List.mapM_cons]
    cases group.mapM (source.answer world) with
    | error fault => exact ⟨[], _, _, rfl, nofun⟩
    | ok blocks =>
      -- The world moves on with each group, but what the source answers stays the same.
      obtain ⟨log, after, notes, run, once⟩ := ih (steady.after group)
        (journal ++ source.notes world group)
      rw [steady] at run once
      simp only [StateT.bind, run]
      refine ⟨policy.logBlocks blocks ++ log, after, source.notes world group ++ notes, ?_, ?_⟩
      · rw [List.append_assoc]
        cases groups.mapM (List.mapM (source.answer world)) with
        | error fault => rfl
        | ok found => rfl
      · cases collected : groups.mapM (List.mapM (source.answer world)) with
        | error fault => exact nofun
        | ok found =>
          rw [collected] at once
          intro _
          rw [List.flatten_cons, ← once rfl, Journal.asked, List.filterMap_append]
          exact congrArg (· ++ notes.asked) (source.asked_notes world group)

theorem scanRange_noted (policy : Policy) (source : BlockSource (StateM σ) ε) (first last : Int)
    (world : σ) (journal : Journal ε δ) :
    (policy.scanRange source.noted first last (world, journal)).1 =
      (policy.scanRange source first last world).1 := by
  have journaled : Journaled (fun _ : Note ε δ => True) (policy.scanRange source first last)
      (policy.scanRange source.noted first last) :=
    scanFrom_journaled (fun _ _ => trivial) _ _
  obtain ⟨notes, -, keeps⟩ := journaled world
  rw [keeps]

theorem scanRange_groups (policy : Policy) (steady : source.Steady world) (first last : Int) :
    ∃ groups : List (List Int), groups.flatten = heightsTo first last ∧
      (policy.scanRange source first last world).1.result =
        (groups.mapM (List.mapM (source.answer world))).map (·.flatMap policy.scanBlocks) ∧
      ((groups.mapM (List.mapM (source.answer world))).isOk →
        (policy.scanRange source.noted first last (world, ([] : Journal ε δ))).2.2.asked =
          heightsTo first last) := by
  obtain ⟨groups, joined, -, run⟩ := policy.scanFrom_eq_scanGroups (source.noted (δ := δ)) first
    (last - first + 1).toNat
  obtain ⟨log, after, notes, scanned, once⟩ := policy.scanGroups_noted steady groups []
  rw [← run] at scanned
  refine ⟨groups, joined, ?_, ?_⟩
  · rw [← policy.scanRange_noted source first last world ([] : Journal ε δ), scanRange, scanned]
  · intro collected
    rw [scanRange, scanned, List.nil_append, once collected, joined, heightsTo]

theorem scanRange_result (steady : source.Steady world) (heighted : source.Heighted)
    (first last : Int) :
    (policy.scanRange source first last world).1.result =
      ((heightsTo first last).mapM (source.answer world)).map
        (·.flatMap fun block => (BlockEvents.ofBlock policy.detectors block).sightings) := by
  obtain ⟨groups, joined, result, -⟩ := policy.scanRange_groups (δ := Empty) steady first last
  rw [result, ← joined, mapM_flatten]
  cases collected : groups.mapM (List.mapM (source.answer world)) with
  | error fault => rfl
  | ok found =>
    have all : groups.flatten.mapM (source.answer world) = .ok found.flatten := by
      rw [mapM_flatten, collected]
      rfl
    rw [joined] at all
    have rising := rising_of_heights (heighted.heights_of_mapM all)
    rw [List.pairwise_flatten] at rising
    have each : ∀ blocks ∈ found, policy.scanBlocks blocks =
        blocks.flatMap fun block => (BlockEvents.ofBlock policy.detectors block).sightings :=
      fun blocks member => policy.scanBlocks_of_rising (rising.1 blocks member)
    change Except.ok (found.flatMap policy.scanBlocks) = .ok (found.flatten.flatMap _)
    rw [List.flatMap_def, List.map_congr_left each, ← List.flatMap_def, ← List.flatMap_id,
      List.flatMap_assoc]
    rfl

theorem scanAt_eq (policy : Policy) (source : BlockSource (StateM σ) ε) (height : Int)
    (world : σ) :
    ∃ log, policy.scanAt source height world =
      (⟨(source.answer world height).map (.ofBlock policy.detectors), log⟩,
        source.after world [height]) := by
  have asked : source.blockAt height world =
      (source.answer world height, source.after world [height]) := rfl
  simp only [scanAt, bind, StateT.bind, asked]
  cases source.answer world height with
  | error fault => exact ⟨_, rfl⟩
  | ok block => exact ⟨_, rfl⟩

theorem scanEach_result (steady : source.Steady world) (heighted : source.Heighted)
    (heights : List Int) :
    (policy.scanEach source heights world).1 = (heights.mapM (source.answer world)).map
      (·.flatMap fun block => (BlockEvents.ofBlock policy.detectors block).sightings) := by
  induction heights generalizing world with
  | nil => rfl
  | cons height heights ih =>
    obtain ⟨log, scanned⟩ := policy.scanAt_eq source height world
    have later := ih (steady.after [height])
    rw [steady] at later
    rw [List.mapM_cons]
    simp only [scanEach, bind, StateT.bind, scanned]
    cases answered : source.answer world height with
    | error fault => rfl
    | ok block =>
      have carried : block.height = some height := heighted height world block answered
      change (policy.scanEach source heights (source.after world [height])).1.map
        ((BlockEvents.ofBlock policy.detectors block).events.map (some height, ·) ++ ·) = _
      rw [later, ← carried]
      cases heights.mapM (source.answer world) with
      | error fault => rfl
      | ok blocks => rfl

/-- What a scan from `first` to `last` does in a world, whatever the size of a batch. -/
structure ScansRange (policy : Policy) (source : BlockSource (StateM σ) ε) (world : σ)
    (first last : Int) : Prop where
  /-- The heights are fetched in consecutive groups, none greater than a batch. -/
  grouped : ∃ groups : List (List Int), groups.flatten = heightsTo first last ∧
    (∀ group ∈ groups, group ≠ [] ∧ group.length ≤ policy.batchSize) ∧
    policy.scanRange source first last = policy.scanGroups source groups
  /-- Where no block is missing, each height is asked for once. -/
  once : source.Complete world first last →
    (policy.scanRange source.noted first last (world, ([] : Journal ε Empty))).2.2.asked =
      heightsTo first last
  /-- Where no block is missing, the events of each are given under its height, in order. -/
  served : source.Heighted → source.Complete world first last →
    ∃ found : Int → BlockEvents,
      (∀ height, first ≤ height → height ≤ last →
        (policy.scanAt source height world).1.result = .ok (found height)) ∧
      (policy.scanRange source first last world).1.result =
        .ok ((heightsTo first last).flatMap fun height =>
          (found height).events.map (some height, ·))
  /-- The fault of the lowest missing block is given. -/
  failed : ∀ height fault, first ≤ height → height ≤ last →
    source.answer world height = .error fault → source.Complete world first (height - 1) →
    (policy.scanRange source first last world).1.result = .error fault
  plain : source.Heighted → (policy.scanRange source first last world).1.result =
    (policy.scanEach source (heightsTo first last) world).1
  uniform : source.Heighted → ∀ policy' : Policy, policy'.detectors = policy.detectors →
    (policy'.scanRange source first last world).1.result =
      (policy.scanRange source first last world).1.result

/-- As long as the source does not change, the scan of a range is the plain one. -/
theorem scanRange_of_steady (policy : Policy) (steady : source.Steady world) (first last : Int) :
    policy.ScansRange source world first last where
  grouped := policy.scanFrom_eq_scanGroups source first (last - first + 1).toNat
  once complete := by
    obtain ⟨blocks, each⟩ := complete.blocks
    obtain ⟨groups, joined, -, asked⟩ :=
      policy.scanRange_groups (δ := Empty) steady first last
    apply asked
    have all := mapM_eq_ok_map each
    rw [← joined, mapM_flatten] at all
    cases collected : groups.mapM (List.mapM (source.answer world)) with
    | error fault =>
      rw [collected] at all
      cases all
    | ok found => rfl
  served heighted complete := by
    obtain ⟨blocks, each⟩ := complete.blocks
    refine ⟨fun height => .ofBlock policy.detectors (blocks height), ?_, ?_⟩
    · intro height low high
      obtain ⟨log, scanned⟩ := policy.scanAt_eq source height world
      rw [scanned, each height (mem_heightsTo.mpr ⟨low, high⟩)]
      rfl
    · have carried : ∀ height ∈ heightsTo first last,
          (BlockEvents.ofBlock policy.detectors (blocks height)).sightings =
            (BlockEvents.ofBlock policy.detectors (blocks height)).events.map (some height, ·) := by
        intro height member
        rw [← heighted height world _ (each height member)]
        rfl
      rw [scanRange_result steady heighted, mapM_eq_ok_map each]
      change Except.ok ((((heightsTo first last).map blocks).flatMap _)) = _
      rw [List.flatMap_map, List.flatMap_def, List.map_congr_left carried, ← List.flatMap_def]
  failed height fault low high fails lower := by
    obtain ⟨groups, joined, result, -⟩ :=
      policy.scanRange_groups (δ := Empty) steady first last
    have ended : (heightsTo first last).mapM (source.answer world) = .error fault := by
      apply mapM_eq_error (pairwise_heightsFrom _ _) (mem_heightsTo.mpr ⟨low, high⟩) fails
      intro item member below
      exact lower item (mem_heightsTo.mp member).1 (Int.le_sub_one_of_lt below)
    rw [← joined, mapM_flatten] at ended
    rw [result]
    cases collected : groups.mapM (List.mapM (source.answer world)) with
    | error fault' =>
      rw [collected] at ended
      cases ended
      rfl
    | ok found =>
      rw [collected] at ended
      cases ended
  plain heighted := by
    rw [scanRange_result steady heighted, scanEach_result steady heighted]
  uniform heighted policy' same := by
    rw [scanRange_result steady heighted, scanRange_result steady heighted, same]

theorem scanRange_reclaims :
    let detector : Detector :=
      ⟨⟨"v1", [0xac]⟩, fun _ => .error (.refused "no terms"), Declaration.standardTag⟩
    let policy : Policy := ⟨[detector], 1, 2, 30, none, by simp, by decide⟩
    let input : TxInput := { outpoint := ⟨[7], 0⟩, script := [0x51, 0x01, 0xac] }
    let tx : Transaction := { version := 2, inputs := [input], outputs := [], txid := "spend" }
    let source : BlockSource (StateM Nat) Int :=
      { tip := fun asked => (.ok 7, asked)
        blockAt := fun height asked =>
          (if height ≤ 7 then .ok ⟨"block", some height, [tx]⟩ else .error height, asked + 1) }
    let found : Event := .refund ⟨TxId.display [7], "spend"⟩
    (policy.scanRange source 5 7 0).1.result =
        .ok [(some 5, found), (some 6, found), (some 7, found)] ∧
      (policy.scanRange source 5 9 0).1.result = .error 8 := by
  intro detector policy input tx source found
  have steady : source.Steady 0 := fun _ => rfl
  have present (height : Int) (high : height ≤ 7) :
      source.answer 0 height = .ok ⟨"block", some height, [tx]⟩ := if_pos high
  have heighted : source.Heighted := by
    intro height asked block served
    have answered : (if height ≤ 7 then .ok ⟨"block", some height, [tx]⟩ else .error height) =
      Except.ok block := served
    split at answered
    · cases answered
      rfl
    · cases answered
  have parsed : Script.parse input.script = .ok [.plain 0x51, .push .direct [0xac]] :=
    Script.parse_eq_ok_iff.mpr ⟨by decide, rfl⟩
  have reclaimed : detector.refund? tx = some ⟨TxId.display [7], "spend"⟩ :=
    Detector.refund?_eq_some.mpr
      ⟨input, rfl, Spend.isReclaim_iff.mpr ⟨by decide, _, parsed⟩, rfl⟩
  have unclaimed : detector.receipt? tx = none := Detector.receipt?_of_refund? reclaimed
  have classified : classify [detector] tx = [found] := by
    simp only [classify, List.findSome?_cons, reclaimed, unclaimed]
    rfl
  constructor
  · have scan := policy.scanRange_of_steady steady 5 7
    obtain ⟨seen, each, result⟩ := scan.served heighted
      fun height _ high => ⟨_, present height high⟩
    have events (height : Int) (low : 5 ≤ height) (high : height ≤ 7) :
        (seen height).events = [found] := by
      obtain ⟨log, scanned⟩ := policy.scanAt_eq source height 0
      have given := each height low high
      rw [scanned, present height high] at given
      rw [← Except.ok.inj given, BlockEvents.events, BlockEvents.ofBlock, List.flatMap_singleton,
        classified]
      rfl
    have heights : heightsTo 5 7 = [5, 6, 7] := rfl
    rw [result, heights, List.flatMap_cons, List.flatMap_cons, List.flatMap_singleton,
      events 5 (by decide) (by decide), events 6 (by decide) (by decide),
      events 7 (by decide) (by decide)]
    rfl
  · have scan := policy.scanRange_of_steady steady 5 9
    exact scan.failed 8 8 (by decide) (by decide) rfl
      fun height _ high => ⟨_, present height (by omega)⟩

end Policy

end SwapWatch
