import SwapWatch.Text.Number

/-!
# Arguments of the command line

Options may stand before, between and after positional arguments until two dashes end them. The
value of a long option follows an equals sign or is the next argument; short options can be joined,
and the value of a short one is the rest of its argument or the next argument. Of an option given
twice the later value counts.
-/

set_option autoImplicit false

namespace SwapWatch.Command

inductive Switch where
  | config
  | bytecode
  | covenant
  | verbose
  | once
  | help
deriving DecidableEq, Repr

namespace Switch

def takesValue : Switch → Bool
  | config | bytecode | covenant => true
  | verbose | once | help => false

def ofLong? : String → Option Switch
  | "--config" => some config
  | "--bytecode" => some bytecode
  | "--covenant" => some covenant
  | "--verbose" => some verbose
  | "--once" => some once
  | "--help" => some help
  | _ => none

def ofShort? : Char → Option Switch
  | 'c' => some config
  | 'v' => some verbose
  | _ => none

end Switch

/-- Options with their values, and positional arguments, both in the order in which they were
given. -/
structure Given where
  options : List (Switch × String) := []
  positional : List String := []

/-- Joined short options: those that need no value, and at last one that takes the remaining
characters as its value or needs the next argument. -/
def shortOptions? (allowed : Switch → Bool) :
    List Char → Option (List Switch × Option (Switch × Option String))
  | [] => some ([], none)
  | char :: chars => do
    let switch ← Switch.ofShort? char
    if !allowed switch then none
    else if switch.takesValue then
      some ([], some (switch, if chars.isEmpty then none else some (String.ofList chars)))
    else
      let (switches, last) ← shortOptions? allowed chars
      some (switch :: switches, last)

/-- What an argument that starts with a dash gives: options without value, and at last one whose
value is attached or is the next argument. -/
def options? (allowed : Switch → Bool) (chars : List Char) :
    Option (List Switch × Option (Switch × Option String)) :=
  let name := String.ofList (chars.takeWhile (· ≠ '='))
  let attached := match chars.dropWhile (· ≠ '=') with
    | _ :: value => some (String.ofList value)
    | [] => none
  match (Switch.ofLong? name).filter allowed with
  | some switch =>
    if switch.takesValue then some ([], some (switch, attached))
    else if attached.isSome then none
    else some ([switch], none)
  | none =>
    match chars with
    | '-' :: '-' :: _ => none
    | _ => shortOptions? allowed (chars.drop 1)

def isOption (argument : String) : Bool :=
  match argument.toList with
  | '-' :: _ :: _ => true
  | _ => false

def given? (allowed : Switch → Bool) : List String → Option Given
  | [] => some {}
  | argument :: arguments =>
    if argument = "--" then some { positional := arguments }
    else if isOption argument then do
      let (plain, last) ← options? allowed argument.toList
      let flags := plain.map fun switch => (switch, "")
      match last with
      | none =>
        let others ← given? allowed arguments
        some { others with options := flags ++ others.options }
      | some (switch, some value) =>
        let others ← given? allowed arguments
        some { others with options := flags ++ (switch, value) :: others.options }
      | some (switch, none) =>
        match arguments with
        | [] => none
        | value :: arguments =>
          let others ← given? allowed arguments
          some { others with options := flags ++ (switch, value) :: others.options }
    else do
      let others ← given? allowed arguments
      some { others with positional := argument :: others.positional }

namespace Given

/-- The value of an option, the last one if it was given twice. -/
def option? (given : Given) (switch : Switch) : Option String :=
  (given.options.reverse.lookup switch)

def has (given : Given) (switch : Switch) : Bool :=
  (given.option? switch).isSome

end Given

structure Options where
  config : Option String
  bytecode : Option String
  covenant : String
  verbose : Bool
deriving DecidableEq, Repr

def Options.ofGiven (given : Given) : Options where
  config := given.option? .config
  bytecode := given.option? .bytecode
  covenant := (given.option? .covenant).getD "cli"
  verbose := given.has .verbose

inductive Invocation where
  | decode (transaction : String) (options : Options)
  | scan (first : Int) (last : Option Int) (options : Options)
  | watch (once : Bool) (options : Options)
  | version
  | help
deriving DecidableEq, Repr

namespace Invocation

def configured (switch : Switch) : Bool :=
  switch != .once

def watching (_ : Switch) : Bool :=
  true

def plain (switch : Switch) : Bool :=
  switch = .help

def height? (text : String) : Option Int :=
  (Text.Number.whole text).toOption

/-- What a command with these arguments asks for. Asking for help wins over missing arguments. -/
def ofCommand? (command : String) (arguments : List String) : Option Invocation :=
  match command with
  | "decode-tx" => do
    let given ← given? configured arguments
    if given.has .help then some .help
    else
      match given.positional with
      | [transaction] => some (.decode transaction (.ofGiven given))
      | _ => none
  | "scan" => do
    let given ← given? configured arguments
    if given.has .help then some .help
    else
      match given.positional with
      | [first] => return .scan (← height? first) none (.ofGiven given)
      | [first, last] =>
        let first ← height? first
        let last ← height? last
        return .scan first (some last) (.ofGiven given)
      | _ => none
  | "watch" => do
    let given ← given? watching arguments
    if given.has .help then some .help
    else if given.positional.isEmpty then some (.watch (given.has .once) (.ofGiven given))
    else none
  | "version" => do
    let given ← given? plain arguments
    if given.has .help then some .help
    else if given.positional.isEmpty then some .version
    else none
  | _ => none

/-- Whether help is asked for in front of the command, and the arguments from the command on. Two
dashes may stand before the command, and no option but that for help. -/
def leading? : List String → Option (Bool × List String)
  | [] => some (false, [])
  | "--" :: arguments => some (false, arguments)
  | "--help" :: arguments => (leading? arguments).map fun (_, arguments) => (true, arguments)
  | argument :: arguments =>
    if isOption argument then none else some (false, argument :: arguments)

/-- What a command line asks for, if it is well formed. -/
def parse? (arguments : List String) : Option Invocation := do
  match ← leading? arguments with
  | (true, _) => some .help
  | (false, command :: arguments) => ofCommand? command arguments
  | (false, []) => none

end Invocation

end SwapWatch.Command
