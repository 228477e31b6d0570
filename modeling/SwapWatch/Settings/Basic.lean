import SwapWatch.Decimal
import SwapWatch.Json.Basic
import SwapWatch.Settings.EnvFile
import SwapWatch.Text.Hex
import SwapWatch.Text.Number

/-!
# Settings

Settings come from several sources. They are loaded when all of them pass their checks, and otherwise
every issue is reported.
-/

set_option autoImplicit false

/-!
## Issues

Why a setting is refused. All settings are looked at, so one report may hold several issues.
-/

namespace SwapWatch

inductive IssueCause where
  | notText
  | notUnicode
  | notInteger
  | integerText
  | integerSize
  | fractional
  | notFinite
  | notNumber
  | numberText
  | belowOne
  | bytecode (flaw : Hex.Flaw)
  | tagSize
deriving DecidableEq, Repr

def IssueCause.kind : IssueCause → String
  | notText => "string_type"
  | notUnicode => "string_unicode"
  | notInteger => "int_type"
  | integerText => "int_parsing"
  | integerSize => "int_parsing_size"
  | fractional => "int_from_float"
  | notFinite => "finite_number"
  | notNumber => "float_type"
  | numberText => "float_parsing"
  | belowOne => "greater_than_equal"
  | bytecode _ => "value_error"
  | tagSize => "value_error"

def IssueCause.message : IssueCause → String
  | notText => "Input should be a valid string"
  | notUnicode => "Input should be a valid string, unable to parse raw data as a unicode string"
  | notInteger => "Input should be a valid integer"
  | integerText => "Input should be a valid integer, unable to parse string as an integer"
  | integerSize => "Unable to parse input string as an integer, exceeded maximum size"
  | fractional => "Input should be a valid integer, got a number with a fractional part"
  | notFinite => "Input should be a finite number"
  | notNumber => "Input should be a valid number"
  | numberText => "Input should be a valid number, unable to parse string as a number"
  | belowOne => "Input should be greater than or equal to 1"
  | bytecode flaw =>
    s!"Value error, redeem_script_without_args is not valid hex: {flaw.message}"
  | tagSize => "Value error, protocol_id must be exactly 4 bytes"

structure Issue where
  field : String
  cause : IssueCause
deriving DecidableEq, Repr

inductive Checked (α : Type) where
  | valid (value : α)
  | invalid (issues : List Issue)

namespace Checked

variable {α β : Type}

/-- Applies a checked function. Issues of the function come first. -/
def apply : Checked (α → β) → Checked α → Checked β
  | valid make, valid value => valid (make value)
  | valid _, invalid issues => invalid issues
  | invalid issues, valid _ => invalid issues
  | invalid first, invalid second => invalid (first ++ second)

instance : Applicative Checked where
  pure := valid
  seq make value := apply make (value ())

def ofExcept (field : String) : Except IssueCause α → Checked α
  | .ok value => valid value
  | .error cause => invalid [⟨field, cause⟩]

def toExcept : Checked α → Except (List Issue) α
  | valid value => .ok value
  | invalid issues => .error issues

end Checked

/-!
## Layers

A setting comes from arguments, from the environment or from a file, and the first of these that has
it counts. Arguments have the name of the setting, and variables have a mark in front of it. Letter
case does not matter; of two arguments for one setting the earlier one counts, of two variables the
later one.
-/

/-- Where settings come from, the strongest source first. -/
structure Layers where
  arguments : List (String × Json) := []
  environment : List (String × String) := []
  /-- The entries of a file. One without a value hides those above it. -/
  file : List EnvFile.Entry := []

namespace Layers

def lowered (name : String) : String :=
  String.ofList (name.toList.map Char.toLower)

def ofArguments? (arguments : List (String × Json)) (field : String) : Option Json :=
  (arguments.find? fun (name, _) => lowered name = field).map (·.2)

def variableName (field : String) : String :=
  "htlc_" ++ field

def ofVariables? (entries : List EnvFile.Entry) (field : String) : Option String :=
  (entries.reverse.find? fun (name, _) => lowered name = variableName field).bind (·.2)

def value? (layers : Layers) (field : String) : Option Json :=
  ofArguments? layers.arguments field <|>
    (ofVariables? (layers.environment.map fun (name, value) => (name, some value)) field).map
      Json.ofString <|>
    (ofVariables? layers.file field).map Json.ofString

end Layers

/-!
## Settings

Every setting has a default. A given value is read for the kind of the setting and then checked.
-/

structure Settings where
  rpcUrl : String
  rpcUser : String
  rpcPassword : String
  rpcTimeout : Float
  covenantVersion : String
  /-- The compiled bytecode of the covenant as hexadecimal text. -/
  redeemScriptWithoutArgs : String
  /-- The tag of the protocol, four bytes long. -/
  protocolId : String
  startHeight : Option Int
  requiredConfirmations : Int
  pollIntervalSeconds : Int
  scanBatchSize : Int

namespace Settings

/-- A text, if it is one without halves of surrogate pairs. -/
def unicode (text : Text.Points) : Except IssueCause String :=
  match text.string? with
  | some text => .ok text
  | none => .error .notUnicode

def asText : Json → Except IssueCause String
  | .text value => unicode value
  | _ => .error .notText

@[simp]
theorem asText_text (text : String) : asText (.text text) = .ok text := by
  rw [asText, unicode, Text.Points.string?_ofString]

/-- The whole number that a float is, if sixty-three bits and a sign hold it. -/
def wholeOf (value : Float) : Except IssueCause Int :=
  if !value.isFinite then .error .notFinite
  else
    match (Decimal.Binary.ofBits (value.toBits.toNat % Nat.pow 2 63)).whole? with
    | none => .error .fractional
    | some size =>
      if Nat.pow 2 63 ≤ size then .error .integerSize
      else .ok (if value < 0.0 then -(size : Int) else size)

def floatOf (value : Int) : Except IssueCause Float :=
  let nearest := (Decimal.Scientific.mk (value < 0) value.natAbs 0).nearest
  if nearest.isFinite then .ok nearest else .error .notNumber

def asInteger : Json → Except IssueCause Int
  | .int value => .ok value
  | .bool value => .ok (if value then 1 else 0)
  | .real value => wholeOf value
  | .text value => do
    (Text.Number.whole (← unicode value)).mapError fun
      | .form => .integerText
      | .size => .integerSize
  | _ => .error .notInteger

def asPositive (value : Json) : Except IssueCause Int := do
  let number ← asInteger value
  if 1 ≤ number then return number else throw .belowOne

def asOptionalInteger : Json → Except IssueCause (Option Int)
  | .null => .ok none
  | value => (asInteger value).map some

def asFloat : Json → Except IssueCause Float
  | .real value => .ok value
  | .int value => floatOf value
  | .bool value => .ok (if value then 1.0 else 0.0)
  | .text value => do
    match Text.Number.real? (← unicode value) with
    | some number => .ok number
    | none => .error .numberText
  | _ => .error .notNumber

/-- Bytecode in its normal form: without blanks around it, without the mark in front of it, and in
lower case. Blanks between bytes stay. -/
def normalBytecode (text : String) : Except Hex.Flaw String := do
  let bare := Hex.dropMark (Text.trim text)
  let _ ← Hex.decode bare
  return String.ofList (bare.toList.map Char.toLower)

def asBytecode (value : Json) : Except IssueCause String := do
  (normalBytecode (← asText value)).mapError .bytecode

def asTag (value : Json) : Except IssueCause String := do
  let tag ← asText value
  if tag.utf8ByteSize = 4 then return tag else throw .tagSize

def setting {α : Type} (layers : Layers) (field : String) (read : Json → Except IssueCause α)
    (default : α) : Checked α :=
  match layers.value? field with
  | some value => .ofExcept field (read value)
  | none => .valid default

/-- The settings, in the order in which issues with them are reported. -/
def check (layers : Layers) : Checked Settings :=
  Settings.mk
    <$> setting layers "rpc_url" asText "http://localhost:8332"
    <*> setting layers "rpc_user" asText ""
    <*> setting layers "rpc_password" asText ""
    <*> setting layers "rpc_timeout" asFloat 30.0
    <*> setting layers "covenant_version" asText "v1"
    <*> setting layers "redeem_script_without_args" asBytecode ""
    <*> setting layers "protocol_id" asTag "SBAS"
    <*> setting layers "start_height" asOptionalInteger none
    <*> setting layers "required_confirmations" asPositive 1
    <*> setting layers "poll_interval_seconds" asPositive 30
    <*> setting layers "scan_batch_size" asPositive 10

def load (layers : Layers) : Except (List Issue) Settings :=
  (check layers).toExcept

end Settings

end SwapWatch
