import SwapWatch.Proofs.Settings.Registry

/-!
# Settings that were loaded

Loaded settings have passed the checks of their fields. The bytecode among them is in normal form:
hexadecimal text that is empty unless it writes some bytes, so registering it never adds a version
without bytecode.
-/

set_option autoImplicit false

namespace SwapWatch

theorem bind_eq_ok {ε α β : Type} {first : Except ε α} {next : α → Except ε β} {result : β}
    (found : first >>= next = .ok result) :
    ∃ value, first = .ok value ∧ next value = .ok result := by
  cases first with
  | error failure => cases found
  | ok value => exact ⟨value, rfl, found⟩

theorem mapError_eq_ok_iff {ε δ α : Type} {read : Except ε α} {name : ε → δ} {value : α} :
    read.mapError name = .ok value ↔ read = .ok value := by
  cases read with
  | error failure => simp [Except.mapError]
  | ok result => simp [Except.mapError]

namespace Checked

variable {α β : Type}

theorem seq_eq_valid {make : Checked (α → β)} {checked : Checked α} {result : β}
    (found : make <*> checked = .valid result) :
    ∃ function value, make = .valid function ∧ checked = .valid value ∧ result = function value := by
  cases make with
  | invalid issues =>
    cases checked with
    | invalid others => cases found
    | valid value => cases found
  | valid function =>
    cases checked with
    | invalid issues => cases found
    | valid value =>
      cases found
      exact ⟨function, value, rfl, rfl, rfl⟩

theorem map_eq_valid {function : α → β} {checked : Checked α} {result : β}
    (found : function <$> checked = .valid result) :
    ∃ value, checked = .valid value ∧ result = function value := by
  cases checked with
  | invalid issues => cases found
  | valid value =>
    cases found
    exact ⟨value, rfl, rfl⟩

theorem ofExcept_eq_valid {field : String} {read : Except IssueCause α} {value : α}
    (found : ofExcept field read = .valid value) : read = .ok value := by
  cases read with
  | error cause => cases found
  | ok result =>
    cases found
    rfl

theorem toExcept_eq_ok {checked : Checked α} {value : α} (found : checked.toExcept = .ok value) :
    checked = .valid value := by
  cases checked with
  | invalid issues => cases found
  | valid result =>
    cases found
    rfl

end Checked

namespace Settings

theorem setting_eq_valid {α : Type} {layers : Layers} {field : String}
    {read : Json → Except IssueCause α} {default value : α}
    (found : setting layers field read default = .valid value) :
    value = default ∨ ∃ source, read source = .ok value := by
  unfold setting at found
  split at found
  · next source _ => exact .inr ⟨source, Checked.ofExcept_eq_valid found⟩
  · cases found
    exact .inl rfl

theorem load_eq_ok {layers : Layers} {settings : Settings} (loaded : load layers = .ok settings) :
    setting layers "redeem_script_without_args" asBytecode "" =
        .valid settings.redeemScriptWithoutArgs ∧
      setting layers "scan_batch_size" asPositive 10 = .valid settings.scanBatchSize := by
  have checked := Checked.toExcept_eq_ok loaded
  unfold check at checked
  obtain ⟨_, batch, beforeBatch, batchChecked, rfl⟩ := Checked.seq_eq_valid checked
  obtain ⟨_, poll, beforePoll, -, rfl⟩ := Checked.seq_eq_valid beforeBatch
  obtain ⟨_, confirmations, beforeConfirmations, -, rfl⟩ := Checked.seq_eq_valid beforePoll
  obtain ⟨_, start, beforeStart, -, rfl⟩ := Checked.seq_eq_valid beforeConfirmations
  obtain ⟨_, tag, beforeTag, -, rfl⟩ := Checked.seq_eq_valid beforeStart
  obtain ⟨_, bytecode, beforeBytecode, bytecodeChecked, rfl⟩ := Checked.seq_eq_valid beforeTag
  obtain ⟨_, label, beforeLabel, -, rfl⟩ := Checked.seq_eq_valid beforeBytecode
  obtain ⟨_, timeout, beforeTimeout, -, rfl⟩ := Checked.seq_eq_valid beforeLabel
  obtain ⟨_, password, beforePassword, -, rfl⟩ := Checked.seq_eq_valid beforeTimeout
  obtain ⟨_, user, beforeUser, -, rfl⟩ := Checked.seq_eq_valid beforePassword
  obtain ⟨url, -, rfl⟩ := Checked.map_eq_valid beforeUser
  exact ⟨bytecodeChecked, batchChecked⟩

theorem asPositive_pos {value : Json} {number : Int} (read : asPositive value = .ok number) :
    1 ≤ number := by
  obtain ⟨integer, -, bounded⟩ := bind_eq_ok read
  by_cases positive : 1 ≤ integer
  · rw [if_pos positive] at bounded
    cases bounded
    exact positive
  · rw [if_neg positive] at bounded
    cases bounded

theorem scanBatchSize_pos {layers : Layers} {settings : Settings}
    (loaded : load layers = .ok settings) : 1 ≤ settings.scanBatchSize := by
  cases setting_eq_valid (load_eq_ok loaded).2 with
  | inl default => rw [default]; decide
  | inr given =>
    obtain ⟨source, read⟩ := given
    exact asPositive_pos read

/-- The normal form of a text writes the bytes that the text spells, and is empty when they are
none. -/
theorem normalBytecode_eq_ok {text normal : String} (read : normalBytecode text = .ok normal) :
    ∃ bytes, Hex.Spells text bytes ∧ Hex.Writes normal.toList bytes ∧ (bytes = [] → normal = "") := by
  obtain ⟨bytes, decoded, lowered⟩ := bind_eq_ok read
  have spelled : Hex.Spells text bytes := Hex.decode_eq_ok_iff.mp decoded
  have shown := Except.ok.inj lowered
  subst shown
  refine ⟨bytes, spelled, ?_, ?_⟩
  · rw [String.toList_ofList]
    exact spelled.lowered
  · intro none
    subst none
    rcases Hex.Spells.nil_iff.mp spelled with empty | lower | upper
    · rw [empty]
      rfl
    · rw [lower]
      rfl
    · rw [upper]
      rfl

theorem asBytecode_eq_ok {value : Json} {normal : String} (read : asBytecode value = .ok normal) :
    ∃ text, normalBytecode text = .ok normal := by
  obtain ⟨text, -, normalized⟩ := bind_eq_ok read
  exact ⟨text, mapError_eq_ok_iff.mp normalized⟩

/-- Loaded settings hold the normal form of bytecode, or none. -/
theorem bytecode_of_load {layers : Layers} {settings : Settings}
    (loaded : load layers = .ok settings) (given : settings.redeemScriptWithoutArgs ≠ "") :
    ∃ bytes, bytes ≠ [] ∧ Hex.Spells settings.redeemScriptWithoutArgs bytes := by
  cases setting_eq_valid (load_eq_ok loaded).1 with
  | inl default => exact absurd default given
  | inr checked =>
    obtain ⟨source, read⟩ := checked
    obtain ⟨text, normalized⟩ := asBytecode_eq_ok read
    obtain ⟨bytes, -, written, empty⟩ := normalBytecode_eq_ok normalized
    exact ⟨bytes, fun none => given (empty none), .of_writes written⟩

end Settings

/-- The settings alone never register a version without bytecode. -/
theorem Config.nonempty_of_load {layers : Layers} {settings : Settings} {config : Config}
    (loaded : Settings.load layers = .ok settings) (made : ofSettings settings = .ok config) :
    ∀ version ∈ config.versions, version.bytecode ≠ [] := by
  by_cases empty : settings.redeemScriptWithoutArgs = ""
  · rw [ofSettings_of_empty empty] at made
    cases made
    simp [bare]
  · obtain ⟨bytes, nonempty, spelled⟩ := Settings.bytecode_of_load loaded empty
    rw [ofSettings_of_spells empty spelled] at made
    cases made
    simpa [adding, bare] using nonempty

end SwapWatch
