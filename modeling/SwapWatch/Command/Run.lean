import SwapWatch.Command.Load
import SwapWatch.Json.Printer

/-!
# Running a command

Events are written as one line of JSON each. Logs and words for the user never stand among them.
-/

set_option autoImplicit false

namespace SwapWatch.Command

def programVersion : String := "0.1.0"

def eventLine (sighting : Sighting) : String :=
  (sighting.2.json sighting.1).print

variable {m : Type → Type} [Monad m]

namespace World

def each (write : String → m Unit) : List String → m Unit
  | [] => return ()
  | line :: lines => do
    write line
    each write lines

/-- Logs the entries that the user wants to see. Debug entries are shown on request. -/
def logShown (world : World m) (verbose : Bool) (entry : LogEntry) : m Unit :=
  if verbose || entry.level != "debug" then world.log entry else return ()

def logAll (world : World m) (verbose : Bool) : List LogEntry → m Unit
  | [] => return ()
  | entry :: entries => do
    world.logShown verbose entry
    world.logAll verbose entries

/-- Continues with the configuration, or tells the user why there is none. -/
def withConfig (world : World m) (options : Options) (act : Config → m Ending) : m Ending := do
  match ← world.load options with
  | .ok config => act config
  | .error error =>
    each world.err error.lines
    return .exit 1

def withPolicy (config : Config) (act : Policy → m Ending) : m Ending :=
  match config.detectors with
  | .error error => return .failed (.covenant error)
  | .ok detectors =>
    match config.policy detectors with
    | .error error => return .failed (.policy error)
    | .ok policy => act policy

def decode (world : World m) (transaction : String) (options : Options) : m Ending :=
  world.withConfig options fun config => do
    match Transaction.ofHex transaction with
    | .error error =>
      world.err s!"Error: {error.message}"
      return .exit 1
    | .ok tx =>
      match config.detectors with
      | .error error => return .failed (.covenant error)
      | .ok detectors =>
        world.logAll options.verbose (classifyLog detectors tx)
        let events := classify detectors tx
        each world.out (events.map fun event => eventLine (none, event))
        if events.isEmpty then world.err s!"No HTLC events in {tx.txid}"
        return .exit 0

def scan (world : World m) (first : Int) (last : Option Int) (options : Options) : m Ending :=
  world.withConfig options fun config => do
    let last := last.getD first
    if last < first then
      world.err "Error: end height is before start height"
      return .exit 1
    else
      withPolicy config fun policy => do
        let scanned ← policy.scanRange (world.source config.endpoint) first last
        world.logAll options.verbose scanned.log
        match scanned.result with
        | .error fault => return .failed (.node fault)
        | .ok sightings =>
          each world.out (sightings.map eventLine)
          return .exit 0

/-- Writes an event. This never fails. -/
def sink (world : World m) : Sink m Empty := fun sighting => do
  world.out (eventLine sighting)
  return .ok ()

def passFault : PassError Fault Empty → Fault
  | .source fault => fault

def watchOnce (world : World m) (config : Config) (policy : Policy) (verbose : Bool) : m Ending := do
  let step ← policy.pass (world.source config.endpoint) world.sink policy.initial
  world.logAll verbose step.log
  match step.result with
  | .error error => return .failed (.node (passFault error))
  | .ok _ => return .exit 0

def watchOn (world : World m) (config : Config) (policy : Policy) (verbose : Bool) : m Ending := do
  world.err "Running in continuous mode. Press Ctrl+C to stop."
  let runner : Runner m Fault Empty :=
    { source := world.source config.endpoint
      sink := world.sink
      log := world.logShown verbose
      pause := fun _ => world.pause policy.pollSeconds
      describe := fun error => (passFault error).message }
  let (_, result) ← runner.run policy world.fuel policy.initial
  match result with
  | .error fault => return .failed (.node fault)
  | .ok () => return .exit 0

def watch (world : World m) (once : Bool) (options : Options) : m Ending :=
  world.withConfig options fun config =>
    withPolicy config fun policy =>
      if once then world.watchOnce config policy options.verbose
      else world.watchOn config policy options.verbose

/-- Does what the command line asks for. A malformed command line does nothing. -/
def run (world : World m) (arguments : List String) : m Ending :=
  match Invocation.parse? arguments with
  | none => return .exit 2
  | some .help => return .exit 0
  | some .version => do
    world.out s!"htlc-watcher v{programVersion}"
    return .exit 0
  | some (.decode transaction options) => world.decode transaction options
  | some (.scan first last options) => world.scan first last options
  | some (.watch once options) => world.watch once options

end World

end SwapWatch.Command
