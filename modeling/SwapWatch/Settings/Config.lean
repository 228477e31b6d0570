import SwapWatch.Detection.Detector
import SwapWatch.Follow.Range
import SwapWatch.Node.Client
import SwapWatch.Settings.Basic

/-!
# Configuration

A configuration holds the versions of the covenant that are looked for. A version is registered once:
bytecode that is already there is not registered again, under whatever label.
-/

set_option autoImplicit false

namespace SwapWatch

structure Config where
  endpoint : Endpoint
  versions : List Version
  tag : Bytes
  startHeight : Option Int
  confirmations : Int
  pollSeconds : Int
  batchSize : Int

namespace Config

/-- Registers a version. Says whether its bytecode is new; the configuration is unchanged if it is
not. -/
def register (config : Config) (name text : String) : Except Hex.Flaw (Bool × Config) := do
  let version ← Version.ofHex name text
  if config.versions.any (·.bytecode = version.bytecode) then return (false, config)
  else return (true, { config with versions := config.versions ++ [version] })

def bare (settings : Settings) : Config where
  endpoint :=
    { url := settings.rpcUrl
      user := settings.rpcUser
      password := settings.rpcPassword
      timeout := settings.rpcTimeout }
  versions := []
  tag := settings.protocolId.toUTF8.toList
  startHeight := settings.startHeight
  confirmations := settings.requiredConfirmations
  pollSeconds := settings.pollIntervalSeconds
  batchSize := settings.scanBatchSize

/-- The configuration that settings describe. Bytecode in them is registered. -/
def ofSettings (settings : Settings) : Except Hex.Flaw Config :=
  if settings.redeemScriptWithoutArgs = "" then .ok (bare settings)
  else
    ((bare settings).register settings.covenantVersion settings.redeemScriptWithoutArgs).map (·.2)

def detectors (config : Config) : Except CovenantError (List Detector) :=
  config.versions.mapM fun version => do
    return Detector.ofCovenant (← Covenant.ofVersion version) config.tag

def policy (config : Config) (detectors : List Detector) : Except PolicyError Policy :=
  Policy.make detectors config.confirmations config.batchSize config.pollSeconds config.startHeight

end Config

end SwapWatch
