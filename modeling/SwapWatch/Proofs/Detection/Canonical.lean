import SwapWatch.Proofs.Detection.Agreement
import SwapWatch.Proofs.Detection.Parts

/-!
# Canonical declarations

Direct pushes write a declaration in a hundred and eight bytes. No other script declares anything
in as few, so the first code, the tag and the sizes of the pushes are fixed: a script in which one
of these bytes is altered, or from which bytes are dropped, declares nothing.
-/

set_option autoImplicit false

namespace SwapWatch

open Script (Op)

namespace Declaration

namespace Parts

variable {tag : Bytes} (parts : Parts)

def bytes (tag : Bytes) : Bytes :=
  0x6a :: 0x04 :: (tag ++ 0x14 :: (parts.recipientPkh ++ 0x14 :: (parts.senderPkh ++
    0x20 :: (parts.hashLock ++ 0x02 :: (parts.expiration ++ 0x02 :: (parts.penaltyBps ++
      0x14 :: parts.senderEvmAddr))))))

theorem fits : parts.declaration.Fits where
  recipientPkh := parts.recipientPkh_size
  senderPkh := parts.senderPkh_size
  hashLock := parts.hashLock_size
  expiration := Endian.toNatBig_lt parts.expiration_size
  penaltyBps := Endian.toNatBig_lt parts.penaltyBps_size
  senderEvmAddr := parts.senderEvmAddr_size

theorem pushes_declaration : parts.declaration.pushes tag = parts.pushes tag := by
  simp only [Declaration.pushes, declaration, pushes, Endian.ofNat_toNatBig parts.expiration_size,
    Endian.ofNat_toNatBig parts.penaltyBps_size]

variable (tagged : tag.length = 4)

include tagged

theorem length_bytes : (parts.bytes tag).length = 108 := by
  simp [bytes, tagged]

theorem directSize_pushes : Script.directSize (parts.pushes tag) = 107 := by
  simp [pushes, Script.directSize, tagged]

theorem encode_pushes :
    Script.encode (.plain 0x6a :: (parts.pushes tag).map (.push .direct)) = parts.bytes tag := by
  simp [Script.encode, pushes, bytes, Op.encode, Script.PushForm.code, Script.PushForm.width,
    Endian.ofNat, tagged]

theorem ofScript?_bytes : ofScript? tag (parts.bytes tag) = some parts.declaration := by
  have found : ofScript? tag (parts.declaration.script tag) = some parts.declaration :=
    ofScript?_script (by omega) parts.fits
  rwa [script, pushes_declaration, parts.encode_pushes tagged] at found

end Parts

/-- Where a canonical declaration has its first code, the size of the tag, the tag, and the sizes of
the six parts. -/
def fixedPositions : List Nat :=
  [0] ++ [1] ++ [2, 3, 4, 5] ++ [6, 27, 48, 81, 84, 87]

/-- A transaction whose second output has the script is no deposit under the tag. -/
def Undetected (tag script : Bytes) : Prop :=
  ∀ (detector : Detector) (tx : Transaction) (locked declaring : TxOutput) (more : List TxOutput),
    detector.tag = tag → tx.outputs = locked :: declaring :: more → declaring.script = script →
      detector.deposit? tx = none

theorem undetected_of_ofScript? {tag script : Bytes} (undeclared : ofScript? tag script = none) :
    Undetected tag script := by
  intro detector tx locked declaring more tagged outputs written
  rw [Option.eq_none_iff_forall_ne_some]
  intro record found
  obtain ⟨locked', declaring', more', hash, declared, outputs', -, carried, -⟩ :=
    Detector.deposit?_eq_some.mp found
  rw [outputs, List.cons.injEq, List.cons.injEq] at outputs'
  obtain ⟨-, rfl, -⟩ := outputs'
  rw [tagged, written, undeclared] at carried
  cases carried

section

variable {tag script : Bytes} (tagged : tag.length = 4)

include tagged

theorem getElem?_bytes_of_fixed (parts parts' : Parts) : ∀ position ∈ fixedPositions,
    (parts.bytes tag)[position]? = (parts'.bytes tag)[position]? := by
  simp [fixedPositions, Parts.bytes, tagged]

/-- A script that declares anything in no more than a hundred and eight bytes is canonical. -/
theorem ofScript?_eq_some_iff_of_short (short : script.length ≤ 108) {declared : Declaration} :
    ofScript? tag script = some declared ↔
      ∃ parts : Parts, script = parts.bytes tag ∧ parts.declaration = declared := by
  constructor
  · intro found
    obtain ⟨parts, ops, parsed, data, same⟩ := ofScript?_eq_some_iff.mp found
    obtain ⟨-, rfl⟩ := Script.parse_eq_ok_iff.mp parsed
    have small : (Script.encode ops).length ≤ Script.directSize (ops.filterMap Op.data?) := by
      rw [data, parts.directSize_pushes tagged]
      rw [Script.encode_cons, List.length_append, Op.length_encode, Op.size] at short
      omega
    have direct := Script.eq_direct_of_length_encode_le small
    rw [data] at direct
    exact ⟨parts, by rw [direct, parts.encode_pushes tagged], same⟩
  · intro written
    obtain ⟨parts, rfl, rfl⟩ := written
    exact parts.ofScript?_bytes tagged

theorem ofScript?_of_altered (parts : Parts) (short : script.length ≤ 108) {position : Nat}
    (fixed : position ∈ fixedPositions)
    (altered : script[position]? ≠ (parts.bytes tag)[position]?) : ofScript? tag script = none := by
  rw [Option.eq_none_iff_forall_ne_some]
  intro declared found
  obtain ⟨parts', rfl, -⟩ := (ofScript?_eq_some_iff_of_short tagged short).mp found
  exact altered (getElem?_bytes_of_fixed tagged parts' parts position fixed)

theorem ofScript?_of_dropped (parts : Parts) (fewer : script.Sublist (parts.bytes tag))
    (dropped : script ≠ parts.bytes tag) : ofScript? tag script = none := by
  have length := parts.length_bytes tagged
  have shorter : script.length < (parts.bytes tag).length :=
    Nat.lt_of_le_of_ne fewer.length_le fun same => dropped (fewer.eq_of_length same)
  rw [Option.eq_none_iff_forall_ne_some]
  intro declared found
  obtain ⟨parts', rfl, -⟩ := (ofScript?_eq_some_iff_of_short tagged (by omega)).mp found
  rw [parts'.length_bytes tagged] at shorter
  omega

end

/-- In at most a hundred and eight bytes exactly the canonical scripts declare anything. An altered
code, tag or size, or dropped bytes, leave no deposit to find, whatever the oracle says. -/
theorem declared_bytes_fixed {tag : Bytes} (tagged : tag.length = 4) :
    (∀ script : Bytes, script.length ≤ 108 → ∀ declared, ofScript? tag script = some declared ↔
      ∃ parts : Parts, script = parts.bytes tag ∧ parts.declaration = declared) ∧
    ∀ parts : Parts, (parts.bytes tag).length = 108 ∧
      (∀ position ∈ fixedPositions, ∀ byte, (parts.bytes tag)[position]? ≠ some byte →
        Undetected tag ((parts.bytes tag).set position byte)) ∧
      ∀ script : Bytes, script.Sublist (parts.bytes tag) → script ≠ parts.bytes tag →
        Undetected tag script := by
  refine ⟨fun script short declared => ofScript?_eq_some_iff_of_short tagged short, ?_⟩
  intro parts
  refine ⟨parts.length_bytes tagged, ?_, ?_⟩
  · intro position fixed byte altered
    have length := parts.length_bytes tagged
    have inside : ∀ position ∈ fixedPositions, position < 108 := by decide
    have there : ((parts.bytes tag).set position byte)[position]? = some byte :=
      List.getElem?_set_self (length ▸ inside position fixed)
    have short : ((parts.bytes tag).set position byte).length ≤ 108 := by
      rw [List.length_set]
      exact Nat.le_of_eq length
    exact undetected_of_ofScript?
      (ofScript?_of_altered tagged parts short fixed (there ▸ altered.symm))
  · intro script fewer dropped
    exact undetected_of_ofScript? (ofScript?_of_dropped tagged parts fewer dropped)

/-- A canonical declaration is read; with the marker of a longer push in place of a size, or without
its last byte, it declares nothing. -/
theorem declared_bytes_fixed_standard :
    let parts : Parts := ⟨List.replicate 20 1, List.replicate 20 2, List.replicate 32 3, [0, 100],
      [0, 50], List.replicate 20 4, rfl, rfl, rfl, rfl, rfl, rfl⟩
    let script := parts.bytes standardTag
    standardTag.length = 4 ∧ ofScript? standardTag script = some parts.declaration ∧
      Undetected standardTag (script.set 27 0x4c) ∧ Undetected standardTag script.dropLast := by
  intro parts script
  have tagged : standardTag.length = 4 := rfl
  obtain ⟨canonical, fixed⟩ := declared_bytes_fixed tagged
  obtain ⟨length, altered, dropped⟩ := fixed parts
  refine ⟨tagged, (canonical script (Nat.le_of_eq length) _).mpr ⟨parts, rfl, rfl⟩, ?_, ?_⟩
  · exact altered 27 (by decide) 0x4c (by decide)
  · exact dropped _ (List.dropLast_sublist script) (by decide)

end Declaration

end SwapWatch
