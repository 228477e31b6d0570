import SwapWatch.Command.Run
import SwapWatch.Proofs.Settings.Loaded

/-!
# Configurations of commands

A command that has a configuration has detectors for it, with one exception: bytecode on the command
line that is not empty as a text but holds nothing, or nothing but the mark, between its blanks. The
settings never hold such bytecode.
-/

set_option autoImplicit false

namespace SwapWatch.Command

/-- The bytecode is given and not the empty text, and still no bytes are left of it. -/
def Hollow (bytecode : Option String) : Prop :=
  ∃ text, bytecode = some text ∧ text ≠ "" ∧
    (Text.trim text = "" ∨ Text.trim text = "0x" ∨ Text.trim text = "0X")

/-- Detectors can be built for the configuration, and at least one. -/
def Usable (config : Config) : Prop :=
  ∃ detectors, config.detectors = .ok detectors ∧ detectors ≠ []

def registrations (bytecode : Option String) (covenant : String) : List Registration :=
  match bytecode with
  | some text => if text = "" then [] else [⟨covenant, text⟩]
  | none => []

private theorem starts_append {start line : String} (starts : start.toList <+: line.toList)
    (more : String) : start.toList <+: (line ++ more).toList := by
  rw [String.toList_append]
  exact starts.trans (List.prefix_append _ _)

theorem LoadError.lines_start (error : LoadError) :
    ∃ line lines, error.lines = line :: lines ∧ "Error: ".toList <+: line.toList := by
  cases error with
  | settings issues =>
    exact ⟨_, _, rfl, starts_append (starts_append (starts_append (starts_append
      List.prefix_rfl _) _) _) _⟩
  | bytecode flaw => exact ⟨_, _, rfl, starts_append List.prefix_rfl _⟩
  | noBytecode => exact ⟨_, _, rfl, by decide⟩

private theorem checked_eq_ok {last config : Config}
    (checked : (if last.versions.isEmpty then throw .noBytecode else return last :
      Except LoadError Config) = .ok config) : config = last ∧ config.versions ≠ [] := by
  by_cases none : last.versions.isEmpty = true
  · rw [if_pos none] at checked
    cases checked
  · rw [if_neg none] at checked
    cases checked
    exact ⟨rfl, by simpa using none⟩

private theorem register_eq_ok {config last : Config} {call : Registration}
    (registered : (config.register call.name call.text).map (·.2) = .ok last) :
    last = config.after call ∧ ∃ bytes, Hex.Spells call.text bytes := by
  constructor
  · rw [Config.after, registered]
    rfl
  · cases read : config.register call.name call.text with
    | error flaw =>
      rw [read] at registered
      cases registered
    | ok answer =>
      have answered : config.answer call = .ok answer.1 := by
        rw [Config.answer, read]
        rfl
      by_contra unspelled
      obtain ⟨flaw, refused⟩ := (config.callDecided call).refused_iff.mpr unspelled
      rw [answered] at refused
      cases refused

theorem configure_eq_ok {layers : Layers} {bytecode : Option String} {covenant : String}
    {config : Config} (configured : configure layers bytecode covenant = .ok config) :
    ∃ settings base, Settings.load layers = .ok settings ∧ Config.ofSettings settings = .ok base ∧
      config = base.afterAll (registrations bytecode covenant) ∧ config.versions ≠ [] ∧
      ∀ call ∈ registrations bytecode covenant, ∃ bytes, Hex.Spells call.text bytes := by
  obtain ⟨settings, loaded, afterLoad⟩ := bind_eq_ok configured
  obtain ⟨base, made, afterBase⟩ := bind_eq_ok afterLoad
  refine ⟨settings, base, mapError_eq_ok_iff.mp loaded, mapError_eq_ok_iff.mp made, ?_⟩
  unfold registrations
  cases bytecode with
  | none =>
    obtain ⟨same, versions⟩ := checked_eq_ok afterBase
    exact ⟨same, versions, by simp⟩
  | some text =>
    by_cases empty : text = ""
    · simp only [if_pos empty] at afterBase ⊢
      obtain ⟨same, versions⟩ := checked_eq_ok afterBase
      exact ⟨same, versions, by simp⟩
    · simp only [if_neg empty] at afterBase ⊢
      obtain ⟨last, registered, checked⟩ := bind_eq_ok afterBase
      obtain ⟨same, versions⟩ := checked_eq_ok checked
      have answered : (base.register covenant text).map (·.2) = .ok last :=
        mapError_eq_ok_iff.mp registered
      let call : Registration := ⟨covenant, text⟩
      have moved : last = base.after call ∧ ∃ bytes, Hex.Spells call.text bytes :=
        register_eq_ok answered
      rw [Config.afterAll_singleton]
      exact ⟨same.trans moved.1, versions, by simpa using moved.2⟩

theorem registrations_cases (bytecode : Option String) (covenant : String) :
    (registrations bytecode covenant = [] ∧ ¬ Hollow bytecode) ∨
      ∃ text, registrations bytecode covenant = [⟨covenant, text⟩] ∧
        (Hollow bytecode ↔ Hex.Spells text []) := by
  unfold registrations Hollow
  cases bytecode with
  | none => exact .inl ⟨rfl, by simp⟩
  | some text =>
    by_cases empty : text = ""
    · exact .inl ⟨if_pos empty, by simp [empty]⟩
    · refine .inr ⟨text, if_neg empty, ?_⟩
      rw [Hex.Spells.nil_iff]
      simp [empty]

/-- The configuration of a command lacks bytecode exactly when the command line gives hollow one, and
then in the version that this one names. -/
theorem empty_iff_hollow {base : Config} {bytecode : Option String} {covenant : String}
    (nonempty : ∀ version ∈ base.versions, version.bytecode ≠ [])
    (spelled : ∀ call ∈ registrations bytecode covenant, ∃ bytes, Hex.Spells call.text bytes) :
    (Hollow bytecode → ⟨covenant, []⟩ ∈ (base.afterAll (registrations bytecode covenant)).versions) ∧
      (¬ Hollow bytecode → ∀ version ∈ (base.afterAll (registrations bytecode covenant)).versions,
        version.bytecode ≠ []) := by
  rcases registrations_cases bytecode covenant with ⟨none, filled⟩ | ⟨text, call, hollow⟩
  · rw [none]
    exact ⟨fun hollow => absurd hollow filled, fun _ => nonempty⟩
  · rw [call, Config.afterAll_singleton]
    have step := base.registers ⟨covenant, text⟩
    generalize base.answer ⟨covenant, text⟩ = answer at step
    generalize base.after ⟨covenant, text⟩ = config at step
    rw [hollow]
    cases step with
    | refused flaw unspelled => exact absurd (spelled ⟨covenant, text⟩ (by simp [call])) unspelled
    | @known bytes found there =>
      refine ⟨?_, fun _ => nonempty⟩
      intro empty
      obtain ⟨version, member, same⟩ := List.mem_map.mp there
      exact absurd (same.trans (found.unique empty)) (nonempty version member)
    | @added bytes found new =>
      constructor
      · intro empty
        rw [empty.unique found]
        exact List.mem_append_right _ (.head _)
      · intro filled version member
        cases List.mem_append.mp member with
        | inl old => exact nonempty version old
        | inr last =>
          cases List.mem_singleton.mp last
          intro none
          exact filled (none ▸ found)

/-- A configuration is usable unless the bytecode on the command line is hollow. Then the version
that it names is refused. -/
theorem usable_iff {layers : Layers} {bytecode : Option String} {covenant : String}
    {config : Config} (configured : configure layers bytecode covenant = .ok config) :
    (Usable config ↔ ¬ Hollow bytecode) ∧
      (Hollow bytecode → config.detectors = .error (.emptyBytecode covenant)) := by
  obtain ⟨settings, base, loaded, made, rfl, some_version, spelled⟩ := configure_eq_ok configured
  obtain ⟨empty, filled⟩ := empty_iff_hollow (Config.nonempty_of_load loaded made) spelled
  have detectors := Config.detectorsDecided
    (Config.nodup_of_ofSettings made (registrations bytecode covenant))
  have refused : Hollow bytecode →
      (base.afterAll (registrations bytecode covenant)).detectors =
        .error (.emptyBytecode covenant) :=
    fun hollow => detectors.refused _ (empty hollow) rfl
  refine ⟨⟨?_, ?_⟩, refused⟩
  · intro usable hollow
    obtain ⟨found, built, -⟩ := usable
    rw [refused hollow] at built
    cases built
  · intro notHollow
    obtain ⟨found, built, shown, -⟩ := detectors.built (filled notHollow)
    refine ⟨found, built, ?_⟩
    intro none
    rw [none] at shown
    exact some_version shown.symm

end SwapWatch.Command
