import Mathlib.Data.List.Nodup
import SwapWatch.Proofs.Text.Hex
import SwapWatch.Settings.Config

/-!
# The registry of versions

Whatever is registered, the versions of a configuration stay those whose bytecode was spelled for the
first time, in the order of the calls. A call whose text spells no bytecode is refused, one whose
bytecode is there already changes nothing, and every other one adds a version at the end.
-/

set_option autoImplicit false

namespace SwapWatch

theorem Version.ofHex_eq_ok_iff {name text : String} {version : Version} :
    Version.ofHex name text = .ok version ↔
      Hex.Spells text version.bytecode ∧ version.name = name := by
  unfold Version.ofHex Hex.Spells
  cases read : Hex.decode (Hex.dropMark (Text.trim text)) with
  | error flaw =>
    constructor
    · intro found
      cases found
    · intro spelled
      rw [Hex.decode_eq_ok_iff.mpr spelled.1] at read
      cases read
  | ok bytes =>
    have written := Hex.decode_eq_ok_iff.mp read
    constructor
    · intro found
      cases found
      exact ⟨written, rfl⟩
    · intro spelled
      obtain ⟨spelled, rfl⟩ := spelled
      rw [written.unique spelled]
      rfl

theorem Version.ofHex_of_spells {text : String} {bytes : Bytes} (spelled : Hex.Spells text bytes)
    (name : String) : Version.ofHex name text = .ok ⟨name, bytes⟩ :=
  Version.ofHex_eq_ok_iff.mpr ⟨spelled, rfl⟩

theorem Version.ofHex_eq_error_iff {name text : String} :
    (∃ flaw, Version.ofHex name text = .error flaw) ↔ ¬ ∃ bytes, Hex.Spells text bytes := by
  cases read : Version.ofHex name text with
  | error flaw =>
    constructor
    · intro _ spelled
      obtain ⟨bytes, spelled⟩ := spelled
      rw [Version.ofHex_of_spells spelled name] at read
      cases read
    · intro _
      exact ⟨flaw, rfl⟩
  | ok version =>
    constructor
    · intro refused
      obtain ⟨flaw, refused⟩ := refused
      cases refused
    · intro unspelled
      exact absurd ⟨version.bytecode, (Version.ofHex_eq_ok_iff.mp read).1⟩ unspelled

/-- The versions whose bytecode is neither among those seen nor that of an earlier one. -/
def Version.newAmong (seen : List Bytes) : List Version → List Version
  | [] => []
  | version :: versions =>
    if version.bytecode ∈ seen then newAmong seen versions
    else version :: newAmong (seen ++ [version.bytecode]) versions

/-- The versions whose bytecode no earlier one has. -/
def Version.firstOccurrences (versions : List Version) : List Version :=
  newAmong [] versions

theorem Version.nodup_newAmong (seen : List Bytes) (nodup : seen.Nodup) (versions : List Version) :
    (seen ++ (newAmong seen versions).map (·.bytecode)).Nodup := by
  induction versions generalizing seen with
  | nil => simpa [newAmong] using nodup
  | cons version versions ih =>
    rw [newAmong]
    by_cases known : version.bytecode ∈ seen
    · rw [if_pos known]
      exact ih seen nodup
    · rw [if_neg known, List.map_cons, List.append_cons]
      apply ih
      rw [← List.concat_eq_append]
      exact nodup.concat known

def Version.detector (version : Version) (tag : Bytes) : Except CovenantError Detector := do
  return Detector.ofCovenant (← Covenant.ofVersion version) tag

/-- A call that registers a version. -/
structure Registration where
  name : String
  text : String

namespace Registration

/-- The version that a call describes, if its text spells bytecode. -/
def version? (call : Registration) : Option Version :=
  (Version.ofHex call.name call.text).toOption

theorem version?_of_spells {call : Registration} {bytes : Bytes}
    (spelled : Hex.Spells call.text bytes) : call.version? = some ⟨call.name, bytes⟩ := by
  rw [version?, Version.ofHex_of_spells spelled]
  rfl

theorem version?_of_unspelled {call : Registration} (unspelled : ¬ ∃ bytes, Hex.Spells call.text bytes) :
    call.version? = none := by
  have refused : ∃ flaw, Version.ofHex call.name call.text = .error flaw :=
    Version.ofHex_eq_error_iff.mpr unspelled
  obtain ⟨flaw, refused⟩ := refused
  rw [version?, refused]
  rfl

end Registration

/-- The registration that settings ask for, if they hold bytecode. -/
def Settings.registrations (settings : Settings) : List Registration :=
  if settings.redeemScriptWithoutArgs = "" then []
  else [⟨settings.covenantVersion, settings.redeemScriptWithoutArgs⟩]

namespace Config

def bytecodes (config : Config) : List Bytes :=
  config.versions.map (·.bytecode)

/-- Whether the call added a version, or why it was refused. -/
def answer (config : Config) (call : Registration) : Except Hex.Flaw Bool :=
  (config.register call.name call.text).map (·.1)

/-- The configuration after the call. A call that is refused gives none, and the old one stays. -/
def after (config : Config) (call : Registration) : Config :=
  ((config.register call.name call.text).map (·.2)).toOption.getD config

def afterAll (config : Config) (calls : List Registration) : Config :=
  calls.foldl after config

theorem afterAll_singleton (config : Config) (call : Registration) :
    config.afterAll [call] = config.after call := by
  rw [afterAll, List.foldl_cons, List.foldl_nil]

def adding (config : Config) (version : Version) : Config :=
  { config with versions := config.versions ++ [version] }

/-- How a call can go: what it answers and the configuration after it. -/
inductive Registers (config : Config) (call : Registration) :
    Except Hex.Flaw Bool → Config → Prop where
  | refused (flaw : Hex.Flaw) : (¬ ∃ bytes, Hex.Spells call.text bytes) →
      Registers config call (.error flaw) config
  | known {bytes : Bytes} : Hex.Spells call.text bytes → bytes ∈ config.bytecodes →
      Registers config call (.ok false) config
  | added {bytes : Bytes} : Hex.Spells call.text bytes → bytes ∉ config.bytecodes →
      Registers config call (.ok true) (config.adding ⟨call.name, bytes⟩)

theorem registers (config : Config) (call : Registration) :
    config.Registers call (config.answer call) (config.after call) := by
  unfold answer after register
  cases read : Version.ofHex call.name call.text with
  | error flaw => exact .refused flaw (Version.ofHex_eq_error_iff.mp ⟨flaw, read⟩)
  | ok version =>
    obtain ⟨spelled, named⟩ := Version.ofHex_eq_ok_iff.mp read
    have shown : version = ⟨call.name, version.bytecode⟩ := by rw [← named]
    have there : (config.versions.any (·.bytecode = version.bytecode)) = true ↔
        version.bytecode ∈ config.bytecodes := by
      simp [bytecodes]
    simp only [bind, Except.bind]
    by_cases member : version.bytecode ∈ config.bytecodes
    · rw [if_pos (there.mpr member)]
      exact .known spelled member
    · rw [if_neg (mt there.mp member), shown]
      exact .added spelled member

/-- Calls add the versions that they describe, each bytecode once. -/
theorem afterAll_eq (config : Config) (calls : List Registration) :
    config.afterAll calls =
      { config with
        versions := config.versions ++
          Version.newAmong config.bytecodes (calls.filterMap Registration.version?) } := by
  induction calls generalizing config with
  | nil => simp [afterAll, Version.newAmong]
  | cons call calls ih =>
    have step := config.registers call
    rw [afterAll, List.foldl_cons]
    change (config.after call).afterAll calls = _
    rw [ih]
    generalize config.answer call = answer at step
    generalize config.after call = next at step
    cases step with
    | refused flaw unspelled =>
      rw [List.filterMap_cons_none (Registration.version?_of_unspelled unspelled)]
    | known spelled there =>
      rw [List.filterMap_cons_some (Registration.version?_of_spells spelled), Version.newAmong,
        if_pos there]
    | added spelled new =>
      rw [List.filterMap_cons_some (Registration.version?_of_spells spelled), Version.newAmong,
        if_neg new]
      simp [adding, bytecodes]

theorem eq_of_ofSettings {settings : Settings} {config : Config}
    (made : ofSettings settings = .ok config) :
    config = (bare settings).afterAll settings.registrations := by
  unfold ofSettings at made
  unfold Settings.registrations
  by_cases empty : settings.redeemScriptWithoutArgs = ""
  · rw [if_pos empty] at made ⊢
    cases made
    rfl
  · rw [if_neg empty] at made ⊢
    simp only [afterAll, List.foldl_cons, List.foldl_nil, after, made, Except.toOption,
      Option.getD_some]

theorem ofSettings_of_empty {settings : Settings} (empty : settings.redeemScriptWithoutArgs = "") :
    ofSettings settings = .ok (bare settings) := by
  rw [ofSettings, if_pos empty]

theorem ofSettings_of_spells {settings : Settings} {bytes : Bytes}
    (given : settings.redeemScriptWithoutArgs ≠ "")
    (spelled : Hex.Spells settings.redeemScriptWithoutArgs bytes) :
    ofSettings settings = .ok ((bare settings).adding ⟨settings.covenantVersion, bytes⟩) := by
  rw [ofSettings, if_neg given, register, Version.ofHex_of_spells spelled]
  rfl

theorem afterAll_of_ofSettings {settings : Settings} {config : Config}
    (made : ofSettings settings = .ok config) (calls : List Registration) :
    config.afterAll calls =
      { bare settings with
        versions := Version.firstOccurrences
          ((settings.registrations ++ calls).filterMap Registration.version?) } := by
  have joined : config.afterAll calls =
      (bare settings).afterAll (settings.registrations ++ calls) := by
    rw [eq_of_ofSettings made, afterAll, afterAll, afterAll, List.foldl_append]
  rw [joined, afterAll_eq]
  rfl

theorem nodup_of_ofSettings {settings : Settings} {config : Config}
    (made : ofSettings settings = .ok config) (calls : List Registration) :
    (config.afterAll calls).bytecodes.Nodup := by
  rw [bytecodes, afterAll_of_ofSettings made]
  exact Version.nodup_newAmong [] List.nodup_nil _

namespace Registers

variable {config next : Config} {call : Registration} {answer : Except Hex.Flaw Bool}

theorem refused_iff (step : config.Registers call answer next) :
    (∃ flaw, answer = .error flaw) ↔ ¬ ∃ bytes, Hex.Spells call.text bytes := by
  cases step with
  | refused flaw unspelled => exact iff_of_true ⟨flaw, rfl⟩ unspelled
  | known spelled _ => exact iff_of_false (by simp) (not_not_intro ⟨_, spelled⟩)
  | added spelled _ => exact iff_of_false (by simp) (not_not_intro ⟨_, spelled⟩)

theorem known_iff (step : config.Registers call answer next) :
    answer = .ok false ↔ ∃ version ∈ config.versions, Hex.Spells call.text version.bytecode := by
  cases step with
  | refused flaw unspelled =>
    apply iff_of_false (by simp)
    intro there
    obtain ⟨version, -, spelled⟩ := there
    exact unspelled ⟨_, spelled⟩
  | known spelled there =>
    obtain ⟨version, member, same⟩ := List.mem_map.mp there
    exact iff_of_true rfl ⟨version, member, same ▸ spelled⟩
  | added spelled new =>
    apply iff_of_false (by simp)
    intro there
    obtain ⟨version, member, spelledVersion⟩ := there
    exact new (List.mem_map.mpr ⟨version, member, spelledVersion.unique spelled⟩)

theorem added_iff (step : config.Registers call answer next) :
    answer = .ok true ↔
      ∃ bytes, Hex.Spells call.text bytes ∧ ∀ version ∈ config.versions, version.bytecode ≠ bytes := by
  cases step with
  | refused flaw unspelled =>
    apply iff_of_false (by simp)
    intro new
    obtain ⟨bytes, spelled, -⟩ := new
    exact unspelled ⟨bytes, spelled⟩
  | known spelled there =>
    obtain ⟨version, member, same⟩ := List.mem_map.mp there
    apply iff_of_false (by simp)
    intro new
    obtain ⟨other, spelledOther, absent⟩ := new
    exact absent version member (same.trans (spelled.unique spelledOther))
  | added spelled new =>
    refine iff_of_true rfl ⟨_, spelled, ?_⟩
    intro version member same
    exact new (List.mem_map.mpr ⟨version, member, same⟩)

theorem unchanged (step : config.Registers call answer next) (old : answer ≠ .ok true) :
    next = config := by
  cases step with
  | refused => rfl
  | known => rfl
  | added => exact absurd rfl old

theorem extended (step : config.Registers call answer next) (new : answer = .ok true) :
    ∃ bytes, Hex.Spells call.text bytes ∧ next = config.adding ⟨call.name, bytes⟩ := by
  cases step with
  | refused => cases new
  | known => cases new
  | @added bytes spelled _ => exact ⟨bytes, spelled, rfl⟩

theorem kept (step : config.Registers call answer next) : config.versions <+: next.versions := by
  cases step with
  | refused => exact List.prefix_rfl
  | known => exact List.prefix_rfl
  | added => exact List.prefix_append _ _

end Registers

/-- What a call does is decided by its text and the bytecode that is there. -/
structure CallDecided (config : Config) (call : Registration) : Prop where
  refused_iff : (∃ flaw, config.answer call = .error flaw) ↔
    ¬ ∃ bytes, Hex.Spells call.text bytes
  known_iff : config.answer call = .ok false ↔
    ∃ version ∈ config.versions, Hex.Spells call.text version.bytecode
  added_iff : config.answer call = .ok true ↔
    ∃ bytes, Hex.Spells call.text bytes ∧ ∀ version ∈ config.versions, version.bytecode ≠ bytes
  unchanged : config.answer call ≠ .ok true → config.after call = config
  extended : config.answer call = .ok true →
    ∃ bytes, Hex.Spells call.text bytes ∧ config.after call = config.adding ⟨call.name, bytes⟩
  kept : config.versions <+: (config.after call).versions

theorem callDecided (config : Config) (call : Registration) : config.CallDecided call := by
  have step := config.registers call
  exact ⟨step.refused_iff, step.known_iff, step.added_iff, step.unchanged, step.extended, step.kept⟩

/-- Detectors are built exactly when no bytecode is empty: one for each version, in their order, with
this version, the tag and the script hashes of its covenant. Else the version without bytecode is
named. -/
structure DetectorsDecided (config : Config) (tag : Bytes) : Prop where
  built : (∀ version ∈ config.versions, version.bytecode ≠ []) →
    ∃ detectors, config.detectors = .ok detectors ∧
      detectors.map (·.version) = config.versions ∧
      ∀ detector ∈ detectors, detector.tag = tag ∧
        ∃ covenant : Covenant, covenant.version = detector.version ∧
          detector.oracle = covenant.redeemHash
  refused : ∀ version ∈ config.versions, version.bytecode = [] →
    config.detectors = .error (.emptyBytecode version.name)

theorem detector_of_nonempty {version : Version} (nonempty : version.bytecode ≠ []) (tag : Bytes) :
    version.detector tag = .ok (Detector.ofCovenant ⟨version, nonempty⟩ tag) := by
  rw [Version.detector, Covenant.ofVersion, dif_pos nonempty]
  rfl

theorem detector_of_empty {version : Version} (empty : version.bytecode = []) (tag : Bytes) :
    version.detector tag = .error (.emptyBytecode version.name) := by
  rw [Version.detector, Covenant.ofVersion, dif_neg (not_not_intro empty)]
  rfl

theorem detectors_built (tag : Bytes) {versions : List Version}
    (nonempty : ∀ version ∈ versions, version.bytecode ≠ []) :
    ∃ detectors, versions.mapM (·.detector tag) = .ok detectors ∧
      detectors.map (·.version) = versions ∧
      ∀ detector ∈ detectors, detector.tag = tag ∧
        ∃ covenant : Covenant, covenant.version = detector.version ∧
          detector.oracle = covenant.redeemHash := by
  induction versions with
  | nil => exact ⟨[], rfl, rfl, List.forall_mem_nil _⟩
  | cons version versions ih =>
    obtain ⟨head, tail⟩ := List.forall_mem_cons.mp nonempty
    obtain ⟨detectors, built, shown, each⟩ := ih tail
    let covenant : Covenant := ⟨version, head⟩
    refine ⟨.ofCovenant covenant tag :: detectors, ?_, congrArg (version :: ·) shown,
      List.forall_mem_cons.mpr ⟨⟨rfl, covenant, rfl, rfl⟩, each⟩⟩
    rw [List.mapM_cons, detector_of_nonempty head, built]
    rfl

theorem detectors_refused (tag : Bytes) {versions : List Version}
    (nodup : (versions.map (·.bytecode)).Nodup) {version : Version} (member : version ∈ versions)
    (empty : version.bytecode = []) :
    versions.mapM (·.detector tag) = .error (.emptyBytecode version.name) := by
  induction versions with
  | nil => cases member
  | cons first versions ih =>
    obtain ⟨unrepeated, nodup⟩ := List.nodup_cons.mp nodup
    rw [List.mapM_cons]
    cases member with
    | head =>
      rw [detector_of_empty empty]
      rfl
    | tail _ member =>
      have nonempty : first.bytecode ≠ [] := fun none =>
        unrepeated (List.mem_map.mpr ⟨version, member, empty.trans none.symm⟩)
      rw [detector_of_nonempty nonempty, ih nodup member]
      rfl

theorem detectorsDecided {config : Config} (nodup : config.bytecodes.Nodup) :
    config.DetectorsDecided config.tag where
  built := detectors_built config.tag
  refused _ member empty := detectors_refused config.tag nodup member empty

/-- Whatever is registered in a configuration that settings describe, its versions are the first
occurrences of all bytecode that was spelled, first that of the settings; every further call is
decided by this list, and so are the detectors. -/
theorem registry_of_settings {settings : Settings} {config : Config}
    (made : ofSettings settings = .ok config) (calls : List Registration) :
    let now := config.afterAll calls
    now = { bare settings with
      versions := Version.firstOccurrences
        ((settings.registrations ++ calls).filterMap Registration.version?) } ∧
    now.bytecodes.Nodup ∧ (∀ call, now.CallDecided call) ∧
    now.DetectorsDecided settings.protocolId.toUTF8.toList := by
  intro now
  have kept := afterAll_of_ofSettings made calls
  have nodup : now.bytecodes.Nodup := nodup_of_ofSettings made calls
  have tagged : now.tag = settings.protocolId.toUTF8.toList := congrArg Config.tag kept
  exact ⟨kept, nodup, now.callDecided, tagged ▸ detectorsDecided nodup⟩

/-- The bytecode of the settings in another spelling, a text that is none, and a mark alone, which
registers a version that no detector can be built for. Before that there is one detector. -/
theorem registry_of_settings_other_spellings :
    let settings : Settings :=
      { rpcUrl := "", rpcUser := "", rpcPassword := "", rpcTimeout := 30.0, covenantVersion := "v1",
        redeemScriptWithoutArgs := "abcd", protocolId := "SBAS", startHeight := none,
        requiredConfirmations := 1, pollIntervalSeconds := 30, scanBatchSize := 10 }
    let others : List Registration := [⟨"again", " 0XAB CD "⟩, ⟨"broken", "abc"⟩]
    let calls := others ++ [⟨"bare", "0x"⟩]
    ∃ config, ofSettings settings = .ok config ∧
      (∃ detectors, (config.afterAll others).detectors = .ok detectors ∧
        detectors.map (·.version) = [⟨"v1", [0xab, 0xcd]⟩] ∧
        ∀ detector ∈ detectors, detector.tag = [0x53, 0x42, 0x41, 0x53]) ∧
      (config.afterAll calls).versions = [⟨"v1", [0xab, 0xcd]⟩, ⟨"bare", []⟩] ∧
      (config.afterAll calls).detectors = .error (.emptyBytecode "bare") ∧
      (config.afterAll calls).answer ⟨"third", "aBcD"⟩ = .ok false := by
  intro settings others calls
  have tag : "SBAS".toUTF8.toList = [0x53, 0x42, 0x41, 0x53] := by decide +kernel
  have read : Version.ofHex "v1" "abcd" = .ok ⟨"v1", [0xab, 0xcd]⟩ := by decide
  have made : ofSettings settings = .ok ((bare settings).adding ⟨"v1", [0xab, 0xcd]⟩) := by
    rw [ofSettings, if_neg (by decide)]
    change ((bare settings).register "v1" "abcd").map (·.2) = _
    rw [register, read]
    rfl
  obtain ⟨keptFirst, -, -, detectorsFirst⟩ := registry_of_settings made others
  obtain ⟨kept, -, decided, detectors⟩ := registry_of_settings made calls
  have foundFirst : (settings.registrations ++ others).filterMap Registration.version? =
      [⟨"v1", [0xab, 0xcd]⟩, ⟨"again", [0xab, 0xcd]⟩] := by decide
  have found : (settings.registrations ++ calls).filterMap Registration.version? =
      [⟨"v1", [0xab, 0xcd]⟩, ⟨"again", [0xab, 0xcd]⟩, ⟨"bare", []⟩] := by decide
  have versionsFirst := congrArg Config.versions keptFirst
  have versions := congrArg Config.versions kept
  rw [foundFirst] at versionsFirst
  rw [found] at versions
  change _ = [(⟨"v1", [0xab, 0xcd]⟩ : Version)] at versionsFirst
  change _ = [(⟨"v1", [0xab, 0xcd]⟩ : Version), ⟨"bare", []⟩] at versions
  refine ⟨_, made, ?_, versions, ?_, ?_⟩
  · obtain ⟨built, given, shown, each⟩ := detectorsFirst.built (by rw [versionsFirst]; decide)
    refine ⟨built, given, shown.trans versionsFirst, fun detector member => ?_⟩
    exact (each detector member).1.trans tag
  · exact detectors.refused ⟨"bare", []⟩ (by rw [versions]; decide) rfl
  · apply (decided _).known_iff.mpr
    refine ⟨⟨"v1", [0xab, 0xcd]⟩, by rw [versions]; decide, ?_⟩
    exact Hex.decode_eq_ok_iff.mp rfl

end Config

end SwapWatch
