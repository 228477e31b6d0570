import SwapWatch.Proofs.Script.Tokens

/-!
# Scripts as lists of codes with data

Seen from outside, an operation is a code and the data behind it, if it pushes any. Scripts that can
be cut and lists of well-formed items correspond one to one: cutting gives the only list that writes
the script, and a script that no list writes is refused. So a script put behind one that can be cut
is cut on its own.
-/

set_option autoImplicit false

namespace SwapWatch.Script

/-- A code with the data behind it, if it pushes any. -/
structure Item where
  code : UInt8
  data? : Option Bytes
deriving DecidableEq, Repr

namespace Item

/-- Items that a script can hold: the data have the size that the code says, or fit the size that
stands behind a marker, and codes above the markers push nothing. -/
inductive WellFormed : Item → Prop where
  | empty : WellFormed ⟨0, some []⟩
  | direct {code : UInt8} {data : Bytes} : 1 ≤ code → code ≤ 75 → data.length = code.toNat →
      WellFormed ⟨code, some data⟩
  | short {data : Bytes} : data.length < 256 → WellFormed ⟨0x4c, some data⟩
  | medium {data : Bytes} : data.length < 65536 → WellFormed ⟨0x4d, some data⟩
  | long {data : Bytes} : data.length < 4294967296 → WellFormed ⟨0x4e, some data⟩
  | plain {code : UInt8} : 0x4f ≤ code → WellFormed ⟨code, none⟩

def sizeBytes (code : UInt8) (size : Nat) : Bytes :=
  if code = 0x4c then Endian.ofNat 1 size
  else if code = 0x4d then Endian.ofNat 2 size
  else if code = 0x4e then Endian.ofNat 4 size
  else []

def encode : Item → Bytes
  | ⟨code, none⟩ => [code]
  | ⟨code, some data⟩ => code :: sizeBytes code data.length ++ data

def encodeAll (items : List Item) : Bytes :=
  items.flatMap encode

end Item

def Op.item (op : Op) : Item :=
  ⟨op.code, op.data?⟩

def items (script : Bytes) : Except Error (List Item) :=
  (parse script).map (·.map Op.item)

theorem items_eq_ok_iff {script : Bytes} {found : List Item} :
    items script = .ok found ↔ ∃ ops, parse script = .ok ops ∧ ops.map Op.item = found := by
  unfold items
  cases parse script with
  | error failure => simp [Except.map]
  | ok ops => simp [Except.map]

theorem Item.sizeBytes_of_le {code : UInt8} (low : code ≤ 75) (size : Nat) :
    sizeBytes code size = [] := by
  have small : code.toNat ≤ 75 := UInt8.le_iff_toNat_le.mp low
  unfold sizeBytes
  split
  · next marker => subst marker; exact absurd small (by decide)
  · split
    · next marker => subst marker; exact absurd small (by decide)
    · split
      · next marker => subst marker; exact absurd small (by decide)
      · rfl

namespace Op

theorem item_wellFormed {op : Op} (formed : op.WellFormed) : op.item.WellFormed := by
  cases op with
  | plain code => exact .plain formed
  | push form data =>
    cases form with
    | direct =>
      cases data with
      | nil => exact .empty
      | cons byte data =>
        have size := PushForm.direct_code_toNat formed
        refine .direct ?_ (PushForm.direct_code_le formed) size.symm
        rw [UInt8.le_iff_toNat_le]
        exact size.symm ▸ Nat.succ_pos data.length
    | short => exact .short formed
    | medium => exact .medium formed
    | long => exact .long formed

theorem encode_item {op : Op} (formed : op.WellFormed) : op.item.encode = op.encode := by
  cases op with
  | plain code => rfl
  | push form data =>
    cases form with
    | direct =>
      have low : PushForm.direct.code data.length ≤ 75 := PushForm.direct_code_le formed
      change PushForm.direct.code data.length ::
        Item.sizeBytes (PushForm.direct.code data.length) data.length ++ data = _
      rw [Item.sizeBytes_of_le low]
      rfl
    | short => rfl
    | medium => rfl
    | long => rfl

end Op

theorem Item.WellFormed.exists_op {item : Item} (formed : item.WellFormed) :
    ∃ op : Op, op.WellFormed ∧ op.item = item := by
  cases formed with
  | empty => exact ⟨.push .direct [], Nat.zero_le _, rfl⟩
  | @direct code data _ low size =>
    have room : data.length ≤ 75 := size ▸ UInt8.le_iff_toNat_le.mp low
    have shown : UInt8.ofNat data.length = code := by rw [size, UInt8.ofNat_toNat]
    exact ⟨.push .direct data, room, congrArg (Item.mk · (some data)) shown⟩
  | @short data room => exact ⟨.push .short data, room, rfl⟩
  | @medium data room => exact ⟨.push .medium data, room, rfl⟩
  | @long data room => exact ⟨.push .long data, room, rfl⟩
  | @plain code high => exact ⟨.plain code, high, rfl⟩

theorem encodeAll_map_item {ops : List Op} (formed : ∀ op ∈ ops, op.WellFormed) :
    Item.encodeAll (ops.map Op.item) = encode ops := by
  induction ops with
  | nil => rfl
  | cons op ops ih =>
    obtain ⟨head, tail⟩ := List.forall_mem_cons.mp formed
    rw [List.map_cons, Item.encodeAll, List.flatMap_cons, Op.encode_item head, encode_cons, ← ih tail]
    rfl

theorem exists_ops_of_items {found : List Item} (formed : ∀ item ∈ found, item.WellFormed) :
    ∃ ops : List Op, (∀ op ∈ ops, op.WellFormed) ∧ ops.map Op.item = found := by
  induction found with
  | nil => exact ⟨[], by simp, rfl⟩
  | cons item found ih =>
    obtain ⟨head, tail⟩ := List.forall_mem_cons.mp formed
    obtain ⟨op, formedOp, rfl⟩ := head.exists_op
    obtain ⟨ops, formedOps, rfl⟩ := ih tail
    exact ⟨op :: ops, List.forall_mem_cons.mpr ⟨formedOp, formedOps⟩, rfl⟩

/-- A script is cut into the items that are well formed and write it. -/
theorem items_iff_written {script : Bytes} {found : List Item} :
    items script = .ok found ↔
      (∀ item ∈ found, item.WellFormed) ∧ Item.encodeAll found = script := by
  rw [items_eq_ok_iff]
  constructor
  · intro cut
    obtain ⟨ops, parsed, rfl⟩ := cut
    obtain ⟨formed, rfl⟩ := parse_eq_ok_iff.mp parsed
    refine ⟨?_, encodeAll_map_item formed⟩
    intro item member
    obtain ⟨op, opMember, rfl⟩ := List.mem_map.mp member
    exact Op.item_wellFormed (formed op opMember)
  · intro written
    obtain ⟨formed, rfl⟩ := written
    obtain ⟨ops, formedOps, rfl⟩ := exists_ops_of_items formed
    exact ⟨ops, parse_eq_ok_iff.mpr ⟨formedOps, (encodeAll_map_item formedOps).symm⟩, rfl⟩

theorem exists_rest_of_encode_eq {first all : List Op} {rest : Bytes}
    (formedFirst : ∀ op ∈ first, op.WellFormed) (formedAll : ∀ op ∈ all, op.WellFormed)
    (same : encode all = encode first ++ rest) :
    ∃ second, all = first ++ second ∧ encode second = rest := by
  induction first generalizing all with
  | nil => exact ⟨all, rfl, same⟩
  | cons op first ih =>
    obtain ⟨formedOp, formedTail⟩ := List.forall_mem_cons.mp formedFirst
    rw [encode_cons, List.append_assoc] at same
    cases all with
    | nil =>
      rw [encode_nil, op.encode_eq_cons, List.cons_append] at same
      cases same
    | cons other all =>
      obtain ⟨formedOther, formedOthers⟩ := List.forall_mem_cons.mp formedAll
      rw [encode_cons] at same
      obtain ⟨rfl, tails⟩ := Op.encode_append_inj formedOther formedOp same
      obtain ⟨second, rfl, written⟩ := ih formedTail formedOthers tails
      exact ⟨second, rfl, written⟩

/-- Behind a script that can be cut, another one is cut as it is cut alone. -/
theorem parse_append_eq_ok_iff {front : Bytes} {first : List Op} (cut : parse front = .ok first)
    {back : Bytes} {found : List Op} :
    parse (front ++ back) = .ok found ↔ ∃ second, parse back = .ok second ∧ found = first ++ second := by
  obtain ⟨formed, rfl⟩ := parse_eq_ok_iff.mp cut
  rw [parse_eq_ok_iff]
  constructor
  · intro written
    obtain ⟨formedAll, same⟩ := written
    obtain ⟨second, rfl, rest⟩ := exists_rest_of_encode_eq formed formedAll same
    have formedSecond : ∀ op ∈ second, op.WellFormed := by
      intro op member
      exact formedAll op (List.mem_append_right first member)
    exact ⟨second, parse_eq_ok_iff.mpr ⟨formedSecond, rest⟩, rfl⟩
  · intro parsed
    obtain ⟨second, parsed, rfl⟩ := parsed
    obtain ⟨formedSecond, rfl⟩ := parse_eq_ok_iff.mp parsed
    refine ⟨?_, encode_append first second⟩
    intro op member
    cases List.mem_append.mp member with
    | inl inFirst => exact formed op inFirst
    | inr inSecond => exact formedSecond op inSecond

theorem items_append_eq_ok_iff {front : Bytes} {first : List Item} (cut : items front = .ok first)
    {back : Bytes} {found : List Item} :
    items (front ++ back) = .ok found ↔
      ∃ second, items back = .ok second ∧ found = first ++ second := by
  obtain ⟨firstOps, parsed, rfl⟩ := items_eq_ok_iff.mp cut
  rw [items_eq_ok_iff]
  constructor
  · intro shown
    obtain ⟨ops, parsedAll, rfl⟩ := shown
    obtain ⟨secondOps, parsedBack, rfl⟩ := (parse_append_eq_ok_iff parsed).mp parsedAll
    exact ⟨secondOps.map Op.item, items_eq_ok_iff.mpr ⟨secondOps, parsedBack, rfl⟩, List.map_append⟩
  · intro behind
    obtain ⟨second, shown, rfl⟩ := behind
    obtain ⟨secondOps, parsedBack, rfl⟩ := items_eq_ok_iff.mp shown
    have joined := (parse_append_eq_ok_iff parsed).mpr ⟨secondOps, parsedBack, rfl⟩
    exact ⟨firstOps ++ secondOps, joined, List.map_append⟩

/-- Scripts that can be cut and lists of well-formed items correspond one to one, all other scripts
are refused, and a script behind one that can be cut is cut on its own. -/
theorem items_correspond_to_scripts :
    (∀ script found, items script = .ok found ↔
      (∀ item ∈ found, item.WellFormed) ∧ Item.encodeAll found = script) ∧
    (∀ script, (∃ error, items script = .error error) ↔
      ¬ ∃ found, (∀ item ∈ found, Item.WellFormed item) ∧ Item.encodeAll found = script) ∧
    ∀ front first, items front = .ok first → ∀ back found,
      items (front ++ back) = .ok found ↔
        ∃ second, items back = .ok second ∧ found = first ++ second := by
  refine ⟨fun script found => items_iff_written, ?_, ?_⟩
  · intro script
    constructor
    · intro refused written
      obtain ⟨error, refused⟩ := refused
      obtain ⟨found, written⟩ := written
      rw [items_iff_written.mpr written] at refused
      cases refused
    · intro unwritten
      cases cut : items script with
      | error error => exact ⟨error, rfl⟩
      | ok found => exact absurd ⟨found, items_iff_written.mp cut⟩ unwritten
  · intro front first cut back found
    exact items_append_eq_ok_iff cut

/-- Empty pushes behind two markers, then a push to the end of the script. Behind them a marker
alone is no script, and the code of one is. -/
theorem items_correspond_to_scripts_empty_pushes :
    let front : Bytes := [0x4c, 0, 0x4d, 0, 0, 2, 7, 8]
    let first : List Item := [⟨0x4c, some []⟩, ⟨0x4d, some []⟩, ⟨2, some [7, 8]⟩]
    items front = .ok first ∧ items (front ++ [0x51]) = .ok (first ++ [⟨0x51, none⟩]) ∧
      ∃ error, items (front ++ [0x4c]) = .error error := by
  intro front first
  obtain ⟨written, refused, behind⟩ := items_correspond_to_scripts
  have cut : items front = .ok first := by
    apply (written front first).mpr
    refine ⟨?_, rfl⟩
    simp only [first, List.forall_mem_cons]
    exact ⟨.short (by decide), .medium (by decide), .direct (by decide) (by decide) rfl, by simp⟩
  have one : items [0x51] = .ok [⟨0x51, none⟩] := by
    apply (written _ _).mpr
    exact ⟨by simpa using Item.WellFormed.plain (by decide), rfl⟩
  refine ⟨cut, (behind front first cut _ _).mpr ⟨_, one, rfl⟩, ?_⟩
  cases whole : items (front ++ [0x4c]) with
  | error error => exact ⟨error, rfl⟩
  | ok found =>
    obtain ⟨second, alone, -⟩ := (behind front first cut _ _).mp whole
    obtain ⟨ops, parsed, -⟩ := items_eq_ok_iff.mp alone
    have missing : parse [0x4c] = .error (.missingSize 0x4c 0) := by
      rw [parse, parseFrom_cons]
      rfl
    rw [missing] at parsed
    cases parsed

end SwapWatch.Script
