import SwapWatch.Detection.Detector
import SwapWatch.Proofs.Detection.Spend
import SwapWatch.Proofs.Script.Carried

/-!
# Parts of a declaration

A declaration is written in six strings of fixed sizes behind the tag. Its documented shape is the
code that leaves an output no value, then seven pushes and nothing else. A declaration is found in
more scripts: plain codes are passed over wherever they stand behind the first one.
-/

set_option autoImplicit false

namespace SwapWatch

open Script (Op)

namespace Declaration

structure Parts where
  recipientPkh : Bytes
  senderPkh : Bytes
  hashLock : Bytes
  expiration : Bytes
  penaltyBps : Bytes
  senderEvmAddr : Bytes
  recipientPkh_size : recipientPkh.length = 20
  senderPkh_size : senderPkh.length = 20
  hashLock_size : hashLock.length = 32
  expiration_size : expiration.length = 2
  penaltyBps_size : penaltyBps.length = 2
  senderEvmAddr_size : senderEvmAddr.length = 20

namespace Parts

attribute [simp] recipientPkh_size senderPkh_size hashLock_size expiration_size penaltyBps_size
  senderEvmAddr_size

def pushes (tag : Bytes) (parts : Parts) : List Bytes :=
  [tag, parts.recipientPkh, parts.senderPkh, parts.hashLock, parts.expiration, parts.penaltyBps,
   parts.senderEvmAddr]

/-- The declaration that the parts write, numbers highest byte first. -/
def declaration (parts : Parts) : Declaration where
  recipientPkh := parts.recipientPkh
  senderPkh := parts.senderPkh
  hashLock := parts.hashLock
  expiration := Endian.toNatBig parts.expiration
  penaltyBps := Endian.toNatBig parts.penaltyBps
  senderEvmAddr := parts.senderEvmAddr

end Parts

variable {tag script : Bytes} {declared : Declaration}

theorem ofPushes?_eq_some_iff {pushes : List Bytes} :
    ofPushes? tag pushes = some declared ↔
      ∃ parts : Parts, pushes = parts.pushes tag ∧ parts.declaration = declared := by
  constructor
  · intro found
    unfold ofPushes? at found
    split at found
    · next first recipient sender hashLock expiration penalty address =>
      split at found
      · next sizes =>
        obtain ⟨rfl, recipientSize, senderSize, hashLockSize, expirationSize, penaltySize,
          addressSize⟩ := sizes
        exact ⟨⟨recipient, sender, hashLock, expiration, penalty, address, recipientSize,
          senderSize, hashLockSize, expirationSize, penaltySize, addressSize⟩, rfl,
          Option.some.inj found⟩
      · cases found
    · cases found
  · intro written
    obtain ⟨parts, rfl, rfl⟩ := written
    simp [Parts.pushes, ofPushes?, Parts.declaration]

theorem ofScript?_eq_some_iff :
    ofScript? tag script = some declared ↔ ∃ (parts : Parts) (ops : List Op),
      Script.parse script = .ok (.plain 0x6a :: ops) ∧
        ops.filterMap Op.data? = parts.pushes tag ∧ parts.declaration = declared := by
  simp only [ofScript?, Option.bind_eq_bind, Option.bind_eq_some_iff]
  constructor
  · intro found
    obtain ⟨pushes, carried, read⟩ := found
    obtain ⟨ops, parsed, data⟩ := Script.carriedData?_eq_some_iff.mp carried
    obtain ⟨parts, written, same⟩ := ofPushes?_eq_some_iff.mp read
    exact ⟨parts, ops, parsed, data.trans written, same⟩
  · intro pushed
    obtain ⟨parts, ops, parsed, data, same⟩ := pushed
    exact ⟨parts.pushes tag, Script.carriedData?_eq_some_iff.mpr ⟨ops, parsed, data⟩,
      ofPushes?_eq_some_iff.mpr ⟨parts, rfl, same⟩⟩

/-- The documented shape: nothing but the pushes of tag and parts, in any forms, stands behind the
first code. -/
def Shape (tag script : Bytes) (declared : Declaration) : Prop :=
  ∃ (parts : Parts) (ops : List Op), Script.parse script = .ok (.plain 0x6a :: ops) ∧
    ops.map Op.data? = (parts.pushes tag).map some ∧ parts.declaration = declared

theorem Shape.found (shaped : Shape tag script declared) :
    ofScript? tag script = some declared := by
  obtain ⟨parts, ops, parsed, shapes, same⟩ := shaped
  exact ofScript?_eq_some_iff.mpr
    ⟨parts, ops, parsed, Script.filterMap_data?_of_map shapes, same⟩

theorem Shape.pushesOnly (shaped : Shape tag script declared) :
    Script.PushesOnly script.tail := by
  obtain ⟨parts, ops, parsed, shapes, -⟩ := shaped
  refine ⟨ops, Script.parse_tail parsed, ?_⟩
  intro op member
  have shown : op.data? ∈ (parts.pushes tag).map some := shapes ▸ List.mem_map_of_mem member
  obtain ⟨data, -, same⟩ := List.mem_map.mp shown
  exact Option.isSome_iff_exists.mpr ⟨data, same.symm⟩

theorem Shape.of_found (found : ofScript? tag script = some declared)
    (only : Script.PushesOnly script.tail) : Shape tag script declared := by
  obtain ⟨parts, ops, parsed, data, same⟩ := ofScript?_eq_some_iff.mp found
  obtain ⟨ops', parsed', pushing⟩ := only
  obtain rfl : ops = ops' := Except.ok.inj ((Script.parse_tail parsed).symm.trans parsed')
  exact ⟨parts, ops, parsed, data ▸ Script.map_data?_of_pushes pushing, same⟩

/-- A script in which a declaration is found has the documented shape exactly if nothing but pushes
stands behind the first code. A declaration is found in the scripts that get this shape when the
plain codes behind the first one are taken out, and in no other. -/
theorem shape_iff_declared (tag script : Bytes) (declared : Declaration) :
    (Shape tag script declared ↔
      ofScript? tag script = some declared ∧ Script.PushesOnly script.tail) ∧
    (ofScript? tag script = some declared ↔ ∃ ops,
      Script.parse script = .ok (.plain 0x6a :: ops) ∧
        Shape tag (Script.encode (.plain 0x6a :: Script.withoutCodes ops)) declared) := by
  refine ⟨⟨?_, ?_⟩, ⟨?_, ?_⟩⟩
  · intro shaped
    exact ⟨shaped.found, shaped.pushesOnly⟩
  · intro foundOnly
    obtain ⟨found, only⟩ := foundOnly
    exact Shape.of_found found only
  · intro found
    obtain ⟨parts, ops, parsed, data, same⟩ := ofScript?_eq_some_iff.mp found
    have shapes : (Script.withoutCodes ops).map Op.data? = (parts.pushes tag).map some := by
      rw [Script.map_data?_withoutCodes, data]
    exact ⟨ops, parsed, parts, Script.withoutCodes ops, Script.parse_withoutCodes parsed, shapes,
      same⟩
  · intro reduced
    obtain ⟨ops, parsed, parts, others, alone, shapes, same⟩ := reduced
    rw [Script.parse_withoutCodes parsed, Except.ok.injEq, List.cons.injEq] at alone
    obtain ⟨-, rfl⟩ := alone
    have data : ops.filterMap Op.data? = parts.pushes tag := by
      rw [Script.map_data?_withoutCodes] at shapes
      exact (List.map_inj_right fun _ _ => Option.some.inj).mp shapes
    exact ofScript?_eq_some_iff.mpr ⟨parts, ops, parsed, data, same⟩

/-- A code without effect in front of the pushes spoils the documented shape, and the declaration is
found all the same. -/
theorem declared_behind_idle_code :
    let parts : Parts := ⟨List.replicate 20 1, List.replicate 20 2, List.replicate 32 3, [0, 100],
      [0, 50], List.replicate 20 4, rfl, rfl, rfl, rfl, rfl, rfl⟩
    let script := Script.encode
      (.plain 0x6a :: .plain 0x61 :: (parts.pushes standardTag).map (.push .direct))
    ofScript? standardTag script = some parts.declaration ∧
      ¬ Shape standardTag script parts.declaration := by
  intro parts script
  obtain ⟨shape_iff, found_iff⟩ := shape_iff_declared standardTag script parts.declaration
  have parsed : Script.parse script =
      .ok (.plain 0x6a :: .plain 0x61 :: (parts.pushes standardTag).map (.push .direct)) :=
    Script.parse_eq_ok_iff.mpr ⟨by decide, rfl⟩
  constructor
  · exact found_iff.mpr ⟨_, parsed, parts, _, Script.parse_withoutCodes parsed, rfl, rfl⟩
  · intro shaped
    obtain ⟨ops, alone, only⟩ := (shape_iff.mp shaped).2
    obtain rfl := Except.ok.inj ((Script.parse_tail parsed).symm.trans alone)
    exact absurd (only (.plain 0x61) (.head _)) (by decide)

end Declaration

end SwapWatch
