import SwapWatch.Script.Tokens

/-!
# Cutting a script into operations

Cutting a script inverts writing operations one after another: a script is cut into operations
exactly when these are well formed and write it. No operation starts another one, so operations are
read back from in front of any rest.
-/

set_option autoImplicit false

namespace SwapWatch.Script

namespace PushForm

theorem ofMarker?_code {form : PushForm} {size : Nat} (marked : form ≠ direct) :
    ofMarker? (form.code size) = some form := by
  cases form with
  | direct => exact absurd rfl marked
  | short => rfl
  | medium => rfl
  | long => rfl

theorem ofMarker?_eq_some {code : UInt8} {form : PushForm} (found : ofMarker? code = some form)
    (size : Nat) : form ≠ direct ∧ form.code size = code := by
  unfold ofMarker? at found
  split at found
  · next marker =>
    cases found
    exact ⟨by decide, marker.symm⟩
  · split at found
    · next marker =>
      cases found
      exact ⟨by decide, marker.symm⟩
    · split at found
      · next marker =>
        cases found
        exact ⟨by decide, marker.symm⟩
      · cases found

theorem ofMarker?_eq_none_iff {code : UInt8} :
    ofMarker? code = none ↔ code ≠ 0x4c ∧ code ≠ 0x4d ∧ code ≠ 0x4e := by
  unfold ofMarker?
  split
  · simp [*]
  · split
    · simp [*]
    · split <;> simp [*]

theorem admits_iff {form : PushForm} (marked : form ≠ direct) (size : Nat) :
    form.Admits size ↔ size < Nat.pow 256 form.width := by
  cases form with
  | direct => exact absurd rfl marked
  | short => rfl
  | medium => rfl
  | long => rfl

theorem direct_code_toNat {size : Nat} (room : direct.Admits size) :
    (direct.code size).toNat = size := by
  have bounded : size ≤ 75 := room
  simp only [code, UInt8.toNat_ofNat']
  omega

theorem direct_code_le {size : Nat} (room : direct.Admits size) : direct.code size ≤ 75 := by
  rw [UInt8.le_iff_toNat_le, direct_code_toNat room]
  exact room

theorem code_not_le {form : PushForm} (marked : form ≠ direct) (size : Nat) :
    ¬ form.code size ≤ 75 := by
  cases form with
  | direct => exact absurd rfl marked
  | short => simp only [code]; decide
  | medium => simp only [code]; decide
  | long => simp only [code]; decide

theorem code_lt {form : PushForm} {size : Nat} (room : form.Admits size) :
    form.code size < 0x4f := by
  cases form with
  | direct => exact UInt8.lt_of_le_of_lt (direct_code_le room) (by decide)
  | short => simp only [code]; decide
  | medium => simp only [code]; decide
  | long => simp only [code]; decide

end PushForm

/-- No push starts with a code above the markers. -/
theorem Op.eq_plain_of_code {op : Op} (formed : op.WellFormed) {code : UInt8}
    (starts : op.code = code) (high : 0x4f ≤ code) : op = .plain code := by
  cases op with
  | plain other => exact congrArg plain starts
  | push form data =>
    have low : code < 0x4f := starts ▸ PushForm.code_lt formed
    exact absurd high (UInt8.not_le.mpr low)

theorem Op.encode_eq_cons (op : Op) : op.encode = op.code :: op.encode.tail := by
  cases op <;> rfl

theorem readData_append (code : UInt8) (form : PushForm) (data rest : Bytes) :
    readData code form data.length (data ++ rest) = .ok (.push form data, rest) := by
  have cut : (data ++ rest).splitExact? data.length = some (data, rest) :=
    Bytes.splitExact?_eq_some_iff.mpr ⟨rfl, rfl⟩
  rw [readData, cut]

theorem readData_eq_ok {code : UInt8} {form : PushForm} {size : Nat} {rest tail : Bytes} {op : Op}
    (found : readData code form size rest = .ok (op, tail)) :
    ∃ data, op = .push form data ∧ data.length = size ∧ rest = data ++ tail := by
  unfold readData at found
  split at found
  · next data back cut =>
    cases found
    obtain ⟨length, parts⟩ := Bytes.splitExact?_eq_some_iff.mp cut
    exact ⟨data, rfl, length, parts⟩
  · cases found

/-- An operation is read back from in front of any rest. -/
theorem readOp_encode {op : Op} (formed : op.WellFormed) (offset : Nat) (rest : Bytes) :
    readOp offset op.code (op.encode.tail ++ rest) = .ok (op, rest) := by
  cases op with
  | plain code =>
    have high : 0x4f ≤ code.toNat := UInt8.le_iff_toNat_le.mp formed
    have noDirect : ¬ code ≤ 75 := by
      rw [UInt8.le_iff_toNat_le]
      simpa using by omega
    have noMarker : PushForm.ofMarker? code = none := by
      rw [PushForm.ofMarker?_eq_none_iff]
      refine ⟨?_, ?_, ?_⟩ <;> rintro rfl <;> exact absurd high (by decide)
    simp [readOp, Op.code, Op.encode, noDirect, noMarker]
  | push form data =>
    have room : form.Admits data.length := formed
    by_cases marked : form = .direct
    · subst marked
      simp only [readOp, Op.code, Op.encode, PushForm.direct_code_le room, if_true,
        PushForm.direct_code_toNat room, PushForm.width, Endian.ofNat, List.cons_append,
        List.nil_append, List.tail_cons]
      exact readData_append _ _ _ _
    · have written : Endian.toNat (Endian.ofNat form.width data.length) = data.length := by
        rw [Endian.toNat_ofNat]
        exact Nat.mod_eq_of_lt ((PushForm.admits_iff marked _).mp room)
      have cut : (Endian.ofNat form.width data.length ++ (data ++ rest)).splitExact? form.width =
          some (Endian.ofNat form.width data.length, data ++ rest) :=
        Bytes.splitExact?_eq_some_iff.mpr ⟨Endian.length_ofNat _ _, rfl⟩
      simp only [readOp, Op.code, Op.encode, PushForm.code_not_le marked, if_false,
        PushForm.ofMarker?_code marked, List.cons_append, List.tail_cons, List.append_assoc, cut,
        written]
      exact readData_append _ _ _ _

/-- Only a well-formed operation is read, and only where it is written. -/
theorem readOp_eq_ok {offset : Nat} {code : UInt8} {rest tail : Bytes} {op : Op}
    (found : readOp offset code rest = .ok (op, tail)) :
    op.WellFormed ∧ code :: rest = op.encode ++ tail := by
  unfold readOp at found
  split at found
  · next low =>
    obtain ⟨data, rfl, length, rfl⟩ := readData_eq_ok found
    have room : data.length ≤ 75 := by
      rw [length]
      exact UInt8.le_iff_toNat_le.mp low
    refine ⟨room, ?_⟩
    simp [Op.encode, PushForm.code, PushForm.width, Endian.ofNat, length]
  · next high =>
    split at found
    · next unmarked =>
      cases found
      rw [PushForm.ofMarker?_eq_none_iff] at unmarked
      refine ⟨?_, rfl⟩
      simp only [Op.WellFormed, UInt8.le_iff_toNat_le, ne_eq, ← UInt8.toNat_inj] at high unmarked ⊢
      simp at high unmarked ⊢
      omega
    · next form marker =>
      split at found
      · cases found
      · next size back cut =>
        obtain ⟨width, rfl⟩ := Bytes.splitExact?_eq_some_iff.mp cut
        obtain ⟨data, rfl, length, rfl⟩ := readData_eq_ok found
        obtain ⟨marked, sameCode⟩ := PushForm.ofMarker?_eq_some marker data.length
        have written : Endian.ofNat form.width data.length = size := by
          rw [← width, length, Endian.ofNat_toNat]
        refine ⟨?_, by simp [Op.encode, sameCode, written]⟩
        change form.Admits data.length
        rw [PushForm.admits_iff marked, length, ← width]
        exact Endian.toNat_lt size

/-- No operation starts another one. -/
theorem Op.encode_append_inj {op op' : Op} {rest rest' : Bytes} (formed : op.WellFormed)
    (formed' : op'.WellFormed) (same : op.encode ++ rest = op'.encode ++ rest') :
    op = op' ∧ rest = rest' := by
  rw [op.encode_eq_cons, op'.encode_eq_cons, List.cons_append, List.cons_append,
    List.cons.injEq] at same
  have read := readOp_encode formed 0 rest
  rw [same.1, same.2, readOp_encode formed' 0 rest'] at read
  cases read
  exact ⟨rfl, rfl⟩

@[simp]
theorem encode_nil : encode [] = [] := rfl

theorem encode_cons (op : Op) (ops : List Op) : encode (op :: ops) = op.encode ++ encode ops := by
  rw [encode, encode, List.flatMap_cons]

theorem encode_append (ops ops' : List Op) : encode (ops ++ ops') = encode ops ++ encode ops' := by
  rw [encode, encode, encode, List.flatMap_append]

/-- Lists of operations of one length are told apart in front of any rest. -/
theorem encode_append_inj {ops ops' : List Op} {rest rest' : Bytes}
    (formed : ∀ op ∈ ops, op.WellFormed) (formed' : ∀ op ∈ ops', op.WellFormed)
    (lengths : ops.length = ops'.length) (same : encode ops ++ rest = encode ops' ++ rest') :
    ops = ops' ∧ rest = rest' := by
  induction ops generalizing ops' with
  | nil =>
    rw [List.length_nil, eq_comm, List.length_eq_zero_iff] at lengths
    subst lengths
    exact ⟨rfl, same⟩
  | cons op ops ih =>
    cases ops' with
    | nil => simp at lengths
    | cons op' ops' =>
      rw [encode_cons, encode_cons, List.append_assoc, List.append_assoc] at same
      obtain ⟨rfl, tails⟩ := Op.encode_append_inj (formed op (.head _)) (formed' op' (.head _)) same
      obtain ⟨rfl, rests⟩ := ih (fun op member => formed op (.tail _ member))
        (fun op member => formed' op (.tail _ member)) (by simpa using lengths) tails
      exact ⟨rfl, rests⟩

theorem parseFrom_cons_eq_ok_iff {offset : Nat} {code : UInt8} {rest : Bytes} {ops : List Op} :
    parseFrom offset (code :: rest) = .ok ops ↔ ∃ op tail others,
      readOp offset code rest = .ok (op, tail) ∧
        parseFrom (offset + op.size) tail = .ok others ∧ ops = op :: others := by
  rw [parseFrom_cons]
  cases found : readOp offset code rest with
  | error failure => simp [Except.bind]
  | ok cut =>
    obtain ⟨op, tail⟩ := cut
    cases inner : parseFrom (offset + op.size) tail with
    | error failure => simp [Except.bind, Except.map, inner]
    | ok others =>
      constructor
      · intro parsed
        simp only [Except.bind, inner, Except.map, Except.ok.injEq] at parsed
        exact ⟨op, tail, others, rfl, inner, parsed.symm⟩
      · rintro ⟨op', tail', others', read, parsed, rfl⟩
        cases read
        rw [inner] at parsed
        cases parsed
        simp only [Except.bind, inner, Except.map]

/-- Cutting a script inverts writing operations. -/
theorem parseFrom_eq_ok_iff {offset : Nat} {script : Bytes} {ops : List Op} :
    parseFrom offset script = .ok ops ↔ (∀ op ∈ ops, op.WellFormed) ∧ encode ops = script := by
  induction ops generalizing offset script with
  | nil =>
    cases script with
    | nil => simp
    | cons code rest => simp [parseFrom_cons_eq_ok_iff]
  | cons op ops ih =>
    constructor
    · intro parsed
      cases script with
      | nil => simp at parsed
      | cons code rest =>
        obtain ⟨op, tail, others, found, inner, ⟨⟩⟩ := parseFrom_cons_eq_ok_iff.mp parsed
        obtain ⟨formed, written⟩ := readOp_eq_ok found
        obtain ⟨formeds, tail_eq⟩ := ih.mp inner
        refine ⟨List.forall_mem_cons.mpr ⟨formed, formeds⟩, ?_⟩
        rw [encode_cons, tail_eq, ← written]
    · rintro ⟨formed, rfl⟩
      obtain ⟨head, tail⟩ := List.forall_mem_cons.mp formed
      rw [encode_cons, op.encode_eq_cons, List.cons_append]
      exact parseFrom_cons_eq_ok_iff.mpr
        ⟨op, encode ops, ops, readOp_encode head offset (encode ops), ih.mpr ⟨tail, rfl⟩, rfl⟩

theorem parse_eq_ok_iff {script : Bytes} {ops : List Op} :
    parse script = .ok ops ↔ (∀ op ∈ ops, op.WellFormed) ∧ encode ops = script :=
  parseFrom_eq_ok_iff

end SwapWatch.Script
