import SwapWatch.Proofs.Settings.Loaded

/-!
# Two readings of bytecode

Bytecode is read from a text in two places: as a setting, which keeps a normal form of the text, and
as that of a version. Both read the same bytes or stop at the same flaw. The normal form is read
again when the version of the settings is registered, and this second reading takes nothing away.
-/

set_option autoImplicit false

namespace SwapWatch

theorem Version.ofHex_eq_map (name text : String) :
    ofHex name text = (Hex.decode (Hex.dropMark (Text.trim text))).map (⟨name, ·⟩) := by
  unfold ofHex
  cases Hex.decode (Hex.dropMark (Text.trim text)) with
  | error flaw => rfl
  | ok bytes => rfl

namespace Settings

theorem asBytecode_text (text : String) :
    asBytecode (.text text) = ((Hex.decode (Hex.dropMark (Text.trim text))).mapError .bytecode).map
      fun _ => String.ofList ((Hex.dropMark (Text.trim text)).toList.map Char.toLower) := by
  simp only [asBytecode, asText_text, normalBytecode, bind, Except.bind]
  cases Hex.decode (Hex.dropMark (Text.trim text)) with
  | error flaw => rfl
  | ok bytes => rfl

theorem writes_of_asBytecode {text normal : String} (read : asBytecode (.text text) = .ok normal)
    {bytes : Bytes} (spelled : Hex.Spells text bytes) :
    Hex.Writes normal.toList bytes ∧ (normal = "" ↔ bytes = []) := by
  have normalized : normalBytecode text = .ok normal := by
    simp only [asBytecode, asText_text, bind, Except.bind] at read
    exact mapError_eq_ok_iff.mp read
  obtain ⟨bytes', spelled', written, empty⟩ := normalBytecode_eq_ok normalized
  obtain rfl := spelled.unique spelled'
  refine ⟨written, ?_, empty⟩
  intro none
  rw [none] at written
  exact written.unique .nil

theorem asBytecode_of_load {layers : Layers} {settings : Settings} {value : Json}
    (loaded : load layers = .ok settings)
    (given : layers.value? "redeem_script_without_args" = some value) :
    asBytecode value = .ok settings.redeemScriptWithoutArgs := by
  have checked := (load_eq_ok loaded).1
  rw [setting, given] at checked
  exact Checked.ofExcept_eq_valid checked

end Settings

namespace Config

/-- What a text gives as bytecode of the settings, compared with what it gives as that of a
version. -/
structure ReadsAlike (text : String) : Prop where
  accepted_iff : ∀ name, (∃ normal, Settings.asBytecode (.text text) = .ok normal) ↔
    ∃ version, Version.ofHex name text = .ok version
  refused_iff : ∀ name flaw, Settings.asBytecode (.text text) = .error (.bytecode flaw) ↔
    Version.ofHex name text = .error flaw
  /-- The normal form holds all bytes of the text, and is read as them once more. -/
  kept : ∀ name normal version, Settings.asBytecode (.text text) = .ok normal →
    Version.ofHex name text = .ok version →
    Hex.decode normal = .ok version.bytecode ∧ Version.ofHex name normal = .ok version
  /-- Settings with the normal form make a configuration, which holds the bytes of the text under
  the label of the settings, or no version at all if the text has no bytes. -/
  registered : ∀ (settings : Settings) name version,
    Settings.asBytecode (.text text) = .ok settings.redeemScriptWithoutArgs →
    Version.ofHex name text = .ok version →
    ofSettings settings = .ok
      { bare settings with
        versions := if version.bytecode = [] then []
          else [⟨settings.covenantVersion, version.bytecode⟩] }
  loaded : ∀ layers settings, Settings.load layers = .ok settings →
    layers.value? "redeem_script_without_args" = some (.text text) →
    Settings.asBytecode (.text text) = .ok settings.redeemScriptWithoutArgs

/-- Every text is read alike as bytecode of the settings and as that of a version. -/
theorem readsAlike (text : String) : ReadsAlike text where
  accepted_iff name := by
    rw [Settings.asBytecode_text, Version.ofHex_eq_map]
    cases Hex.decode (Hex.dropMark (Text.trim text)) with
    | error flaw => exact iff_of_false nofun nofun
    | ok bytes => exact iff_of_true ⟨_, rfl⟩ ⟨_, rfl⟩
  refused_iff name flaw := by
    rw [Settings.asBytecode_text, Version.ofHex_eq_map]
    cases Hex.decode (Hex.dropMark (Text.trim text)) with
    | error found => simp [Except.mapError, Except.map]
    | ok bytes => exact iff_of_false nofun nofun
  kept name normal version read made := by
    obtain ⟨spelled, rfl⟩ := Version.ofHex_eq_ok_iff.mp made
    obtain ⟨written, -⟩ := Settings.writes_of_asBytecode read spelled
    exact ⟨Hex.decode_eq_ok_iff.mpr written,
      Version.ofHex_of_spells (.of_writes written) version.name⟩
  registered settings name version read made := by
    obtain ⟨spelled, -⟩ := Version.ofHex_eq_ok_iff.mp made
    obtain ⟨written, empty_iff⟩ := Settings.writes_of_asBytecode read spelled
    by_cases none : version.bytecode = []
    · rw [if_pos none]
      exact ofSettings_of_empty (empty_iff.mpr none)
    · rw [if_neg none]
      exact ofSettings_of_spells (mt empty_iff.mp none) (.of_writes written)
  loaded layers settings loaded given := Settings.asBytecode_of_load loaded given

/-- A blank behind the mark is kept in the normal form and dropped when this is read. -/
example : Settings.asBytecode (.text " 0X AB") = .ok " ab" ∧
    Version.ofHex "v1" " ab" = .ok ⟨"v1", [0xab]⟩ := by
  rw [Settings.asBytecode_text]
  decide

end Config

end SwapWatch
