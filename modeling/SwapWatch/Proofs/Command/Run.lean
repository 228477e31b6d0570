import SwapWatch.Proofs.Command.Load

/-!
# How commands end

A command either has its configuration or tells the user why there is none and exits with code one.
It fails for its configuration only when the bytecode on the command line is hollow.
-/

set_option autoImplicit false

namespace SwapWatch.Command

variable {σ : Type}

/-- The command failed for its configuration: no detector or no policy could be built. -/
def Ending.ForConfiguration : Ending → Prop
  | failed (.covenant _) => True
  | failed (.policy _) => True
  | _ => False

theorem bind_apply {α β : Type} (first : StateM σ α) (next : α → StateM σ β) (start : σ) :
    (first >>= next) start = next (first start).1 (first start).2 :=
  rfl

/-- However the action starts, it ends as described. -/
def Ends (action : StateM σ Ending) (holds : Ending → Prop) : Prop :=
  ∀ start, holds (action start).1

namespace Ends

variable {α : Type} {holds : Ending → Prop}

theorem pure {ending : Ending} (ends : holds ending) :
    Ends (Pure.pure ending : StateM σ Ending) holds :=
  fun _ => ends

theorem bind {first : StateM σ α} {next : α → StateM σ Ending}
    (each : ∀ value, Ends (next value) holds) : Ends (first >>= next) holds :=
  fun start => each (first start).1 (first start).2

end Ends

/-- The command fails for its configuration only because the bytecode in the options is hollow. -/
def OnlyHollow (options : Options) (ending : Ending) : Prop :=
  ending.ForConfiguration → Hollow options.bytecode ∧
    ending = .failed (.covenant (.emptyBytecode options.covenant))

theorem OnlyHollow.of_exit (options : Options) (code : Nat) : OnlyHollow options (.exit code) :=
  False.elim

theorem OnlyHollow.of_node (options : Options) (fault : Fault) :
    OnlyHollow options (.failed (.node fault)) :=
  False.elim

theorem exists_policy {layers : Layers} {bytecode : Option String} {covenant : String}
    {config : Config} (configured : configure layers bytecode covenant = .ok config)
    {detectors : List Detector} (some_detector : detectors ≠ []) :
    ∃ policy, config.policy detectors = .ok policy := by
  obtain ⟨settings, base, loaded, made, rfl, -⟩ := configure_eq_ok configured
  have size : 0 < (base.afterAll (registrations bytecode covenant)).batchSize := by
    rw [Config.afterAll_of_ofSettings made]
    exact Settings.scanBatchSize_pos loaded
  rw [Config.policy, Policy.make, dif_pos some_detector, dif_pos size]
  exact ⟨_, rfl⟩

namespace World

theorem load_eq_configure (world : World (StateM σ)) (options : Options) (start : σ) :
    ∃ layers, (world.load options start).1 =
      configure layers options.bytecode options.covenant := by
  unfold World.load
  cases (options.config.map plainPath).filter (· ≠ "") with
  | none => exact ⟨_, rfl⟩
  | some path => exact ⟨_, rfl⟩

theorem withConfig_of_ok {world : World (StateM σ)} {options : Options} {start : σ} {config : Config}
    (loaded : (world.load options start).1 = .ok config) (act : Config → StateM σ Ending) :
    world.withConfig options act start = act config (world.load options start).2 := by
  rw [World.withConfig, bind_apply, loaded]

theorem withConfig_of_error {world : World (StateM σ)} {options : Options} {start : σ}
    {error : LoadError} (refused : (world.load options start).1 = .error error)
    (act : Config → StateM σ Ending) :
    world.withConfig options act start =
      (.exit 1, (each world.err error.lines (world.load options start).2).2) := by
  rw [World.withConfig, bind_apply, refused]
  rfl

theorem withConfig_ends {world : World (StateM σ)} {options : Options}
    {act : Config → StateM σ Ending}
    (each : ∀ layers config, configure layers options.bytecode options.covenant = .ok config →
      Ends (act config) (OnlyHollow options)) :
    Ends (world.withConfig options act) (OnlyHollow options) := by
  intro start
  cases loaded : (world.load options start).1 with
  | error error =>
    rw [withConfig_of_error loaded]
    exact .of_exit options 1
  | ok config =>
    obtain ⟨layers, configured⟩ := world.load_eq_configure options start
    rw [withConfig_of_ok loaded]
    exact each layers config (configured.symm.trans loaded) _

theorem ends_of_detectors {options : Options} {layers : Layers} {config : Config}
    (configured : configure layers options.bytecode options.covenant = .ok config)
    {act : List Detector → StateM σ Ending}
    (each : ∀ detectors, detectors ≠ [] → Ends (act detectors) (OnlyHollow options)) :
    Ends (match config.detectors with
      | .error error => return .failed (.covenant error)
      | .ok detectors => act detectors) (OnlyHollow options) := by
  obtain ⟨usable, refused⟩ := usable_iff configured
  by_cases hollow : Hollow options.bytecode
  · rw [refused hollow]
    exact .pure fun _ => ⟨hollow, rfl⟩
  · obtain ⟨detectors, built, some_detector⟩ := usable.mpr hollow
    rw [built]
    exact each detectors some_detector

theorem withPolicy_ends {options : Options} {layers : Layers} {config : Config}
    (configured : configure layers options.bytecode options.covenant = .ok config)
    {act : Policy → StateM σ Ending}
    (each : ∀ policy, Ends (act policy) (OnlyHollow options)) :
    Ends (withPolicy config act) (OnlyHollow options) := by
  apply ends_of_detectors configured
  intro detectors some_detector
  obtain ⟨policy, made⟩ := exists_policy configured some_detector
  rw [made]
  exact each policy

variable (world : World (StateM σ)) (options : Options)

theorem decode_ends (transaction : String) :
    Ends (world.decode transaction options) (OnlyHollow options) := by
  apply withConfig_ends
  intro layers config configured
  cases Transaction.ofHex transaction with
  | error error => exact Ends.bind fun _ => .pure (.of_exit options 1)
  | ok tx =>
    apply ends_of_detectors configured
    intro detectors _
    apply Ends.bind
    intro _
    apply Ends.bind
    intro _
    dsimp only
    split
    · exact Ends.bind fun _ => .pure (.of_exit options 0)
    · exact .pure (.of_exit options 0)

theorem scan_ends (first : Int) (last : Option Int) :
    Ends (world.scan first last options) (OnlyHollow options) := by
  apply withConfig_ends
  intro layers config configured
  dsimp only
  split
  · exact Ends.bind fun _ => .pure (.of_exit options 1)
  · apply withPolicy_ends configured
    intro policy
    apply Ends.bind
    intro scanned
    apply Ends.bind
    intro _
    cases scanned.result with
    | error fault => exact .pure (.of_node options fault)
    | ok sightings => exact Ends.bind fun _ => .pure (.of_exit options 0)

theorem watchOnce_ends (config : Config) (policy : Policy) :
    Ends (world.watchOnce config policy options.verbose) (OnlyHollow options) := by
  apply Ends.bind
  intro step
  apply Ends.bind
  intro _
  cases step.result with
  | error error => exact .pure (.of_node options _)
  | ok count => exact .pure (.of_exit options 0)

theorem watchOn_ends (config : Config) (policy : Policy) :
    Ends (world.watchOn config policy options.verbose) (OnlyHollow options) := by
  apply Ends.bind
  intro _
  apply Ends.bind
  intro finished
  obtain ⟨last, result⟩ := finished
  cases result with
  | error fault => exact .pure (.of_node options fault)
  | ok _ => exact .pure (.of_exit options 0)

theorem watch_ends (once : Bool) : Ends (world.watch once options) (OnlyHollow options) := by
  apply withConfig_ends
  intro layers config configured
  apply withPolicy_ends configured
  intro policy
  cases once with
  | true => exact world.watchOnce_ends options config policy
  | false => exact world.watchOn_ends options config policy

end World

def Invocation.options? : Invocation → Option Options
  | decode _ options => some options
  | scan _ _ options => some options
  | watch _ options => some options
  | version => none
  | help => none

/-- A run that fails for its configuration was given hollow bytecode. -/
theorem World.run_ends (world : World (StateM σ)) (arguments : List String) :
    Ends (world.run arguments) fun ending => ending.ForConfiguration →
      ∃ options, (Invocation.parse? arguments).bind Invocation.options? = some options ∧
        Hollow options.bytecode ∧ ending = .failed (.covenant (.emptyBytecode options.covenant)) := by
  unfold World.run
  cases Invocation.parse? arguments with
  | none => exact .pure False.elim
  | some invocation =>
    cases invocation with
    | decode transaction options =>
      exact fun start failed => ⟨options, rfl, world.decode_ends options transaction start failed⟩
    | scan first last options =>
      exact fun start failed => ⟨options, rfl, world.scan_ends options first last start failed⟩
    | watch once options =>
      exact fun start failed => ⟨options, rfl, world.watch_ends options once start failed⟩
    | version => exact Ends.bind fun _ => .pure False.elim
    | help => exact .pure False.elim

/-- A command is refused its configuration with a line that calls itself an error and code one, or it
gets one that is usable exactly when the bytecode on the command line is not hollow. No run fails for
its configuration otherwise. -/
theorem configuration_usable_or_refused (world : World (StateM σ)) :
    (∀ options start,
      (∃ (error : LoadError) (line : String) (lines : List String),
        error.lines = line :: lines ∧ "Error: ".toList <+: line.toList ∧
        ∀ act, world.withConfig options act start =
          (.exit 1, (World.each world.err error.lines (world.load options start).2).2)) ∨
      ∃ config, (Usable config ↔ ¬ Hollow options.bytecode) ∧
        ∀ act, world.withConfig options act start = act config (world.load options start).2) ∧
    ∀ arguments start, (world.run arguments start).1.ForConfiguration →
      ∃ options, (Invocation.parse? arguments).bind Invocation.options? = some options ∧
        Hollow options.bytecode ∧
        (world.run arguments start).1 = .failed (.covenant (.emptyBytecode options.covenant)) := by
  refine ⟨?_, world.run_ends⟩
  intro options start
  cases loaded : (world.load options start).1 with
  | error error =>
    obtain ⟨line, lines, shown, marked⟩ := error.lines_start
    exact .inl ⟨error, line, lines, shown, marked, World.withConfig_of_error loaded⟩
  | ok config =>
    obtain ⟨layers, configured⟩ := world.load_eq_configure options start
    have usable := (usable_iff (configured.symm.trans loaded)).1
    exact .inr ⟨config, usable, World.withConfig_of_ok loaded⟩

/-- A mark alone as bytecode on the command line, in silent surroundings without any settings. -/
theorem configuration_usable_or_refused_mark_alone :
    let nowhere : BlockSource (StateM Unit) Fault :=
      ⟨return .error .notJson, fun _ => return .error .notJson⟩
    let world : World (StateM Unit) :=
      { environment := [], standardFile := none, fileText := fun _ => return none,
        source := fun _ => nowhere, out := fun _ => return (), err := fun _ => return (),
        log := fun _ => return (), pause := fun _ => return .ok false, fuel := 1 }
    let arguments := ["watch", "--once", "--bytecode", "0x"]
    (world.run arguments ()).1 = .failed (.covenant (.emptyBytecode "cli")) ∧
      ∃ options, (Invocation.parse? arguments).bind Invocation.options? = some options ∧
        Hollow options.bytecode := by
  intro nowhere world arguments
  have given : given? Invocation.watching ["--once", "--bytecode", "0x"] =
      some ⟨[(.once, ""), (.bytecode, "0x")], []⟩ := by cbv
  have asked : Invocation.parse? arguments = some (.watch true ⟨none, some "0x", "cli", false⟩) := by
    change (given? Invocation.watching ["--once", "--bytecode", "0x"] >>= _) = _
    rw [given]
    rfl
  have failed : (world.run arguments ()).1 = .failed (.covenant (.emptyBytecode "cli")) := by
    rw [World.run, asked]
    rfl
  have configured : (world.run arguments ()).1.ForConfiguration := by
    rw [failed]
    exact True.intro
  obtain ⟨options, needed, hollow, -⟩ :=
    (configuration_usable_or_refused world).2 arguments () configured
  exact ⟨failed, options, needed, hollow⟩

end SwapWatch.Command
