import SwapWatch.Command.Arguments
import SwapWatch.Follow.Run
import SwapWatch.Node.Client
import SwapWatch.Settings.Config

/-!
# Loading the configuration

How a command gets its configuration from its surroundings, or the lines that say why it gets none.
-/

set_option autoImplicit false

/-!
## Surroundings of a command

A command sees the environment and files, reaches a node, and writes lines. How it ends is a value:
an exit code, or a failure that no command handles.
-/

namespace SwapWatch.Command

structure World (m : Type → Type) where
  environment : List (String × String)
  standardFile : Option String
  fileText : String → m (Option String)
  source : Endpoint → BlockSource m Fault
  out : String → m Unit
  err : String → m Unit
  log : LogEntry → m Unit
  /-- Waits for some seconds and says whether to go on. -/
  pause : Int → m (Except Fault Bool)
  /-- The greatest number of passes over a chain. -/
  fuel : Nat

inductive Failure where
  | covenant (error : CovenantError)
  | policy (error : PolicyError)
  | node (fault : Fault)

def Failure.message : Failure → Text.Points
  | covenant error => error.message
  | policy error => error.message
  | node fault => fault.message

inductive Ending where
  | exit (code : Nat)
  | failed (failure : Failure)

def Ending.code : Ending → Nat
  | exit code => code
  | failed _ => 1

/-!
## Loading

A named file counts as the source of settings in place of the one in the working directory, and its
variables are added to the environment first. A path to the working directory itself names no file.
Bytecode on the command line is registered after that of the settings. A configuration without any
bytecode is refused.
-/

inductive LoadError where
  | settings (issues : List Issue)
  | bytecode (flaw : Hex.Flaw)
  | noBytecode
deriving DecidableEq, Repr

def LoadError.lines : LoadError → List String
  | settings issues =>
    let count := issues.length
    let word := if count = 1 then "error" else "errors"
    s!"Error: {count} validation {word} for Settings" ::
      issues.map fun issue => "  " ++ issue.field ++ ": " ++ issue.cause.message
  | bytecode flaw => [s!"Error: {flaw.message}"]
  | noBytecode =>
    ["Error: no covenant bytecode. Set HTLC_REDEEM_SCRIPT_WITHOUT_ARGS or pass --bytecode."]

/-- A path without the steps that lead nowhere. That of the working directory is empty. -/
def plainPath (path : String) : String :=
  let steps := (path.toList.splitOn '/').filter fun step => step ≠ [] ∧ step ≠ ['.']
  let root := if path.startsWith "/" then ['/'] else []
  String.ofList (root ++ ['/'].intercalate steps)

/-- The sources of settings. `file` is the named file: not named, not readable, or its text. -/
def layers (environment : List (String × String)) (standardFile : Option String)
    (file : Option (Option String)) : Layers :=
  match file with
  | none =>
    { environment
      file := (standardFile.map (EnvFile.read .file environment)).getD [] }
  | some text =>
    let extended := (text.map fun text =>
      EnvFile.extend environment (EnvFile.read .environment environment text)).getD environment
    { environment := extended
      file := (text.map (EnvFile.read .file extended)).getD [] }

/-- The configuration that settings and the command line describe. Empty bytecode on the command
line counts as not given. -/
def configure (layers : Layers) (bytecode : Option String) (covenant : String) :
    Except LoadError Config := do
  let settings ← (Settings.load layers).mapError .settings
  let config ← (Config.ofSettings settings).mapError .bytecode
  let config ← match bytecode with
    | some text =>
      if text = "" then pure config
      else ((config.register covenant text).map (·.2)).mapError .bytecode
    | none => pure config
  if config.versions.isEmpty then throw .noBytecode else return config

variable {m : Type → Type} [Monad m]

def World.load (world : World m) (options : Options) : m (Except LoadError Config) := do
  let file ← match (options.config.map plainPath).filter (· ≠ "") with
    | none => pure none
    | some path => some <$> world.fileText path
  return configure (layers world.environment world.standardFile file) options.bytecode options.covenant

end SwapWatch.Command
