import SwapWatch.Command.Run

/-!
# The program

The outer layer: arguments and environment in, lines out. The node is reached through a bridge of two
files, usually named pipes, that the variables `SWAPWATCH_REQUESTS` and `SWAPWATCH_REPLIES` name.
Each request is written as one line of JSON with address, credentials and body; each reply is read as
one line with its status, a space and its body.
-/

set_option autoImplicit false

namespace SwapWatch.Program

open Command

structure Bridge where
  requests : String
  replies : String

def postLine (post : Post) : String :=
  (Json.record
    [("url", .text post.url),
     ("authorization", (post.authorization.map Json.ofString).getD .null),
     ("body", post.body)]).print

/-- A reply as it is read from the bridge. A line without status stands for no reply. -/
def replyOfLine (line : String) : Reply :=
  let chars := line.toList
  match (String.ofList (chars.takeWhile Char.isDigit)).toNat? with
  | some status => ⟨status, (String.ofList ((chars.dropWhile Char.isDigit).drop 1)).toUTF8.toList⟩
  | none => ⟨503, []⟩

def Bridge.send (bridge : Bridge) (post : Post) : IO Reply := do
  try
    IO.FS.writeFile bridge.requests (postLine post ++ "\n")
    return replyOfLine (← IO.FS.readFile bridge.replies)
  catch _ => return ⟨503, []⟩

def textOfFile (path : String) : IO (Option String) := do
  try
    return some (← IO.FS.readFile path)
  catch _ => return none

def variableOfEntry (entry : List Char) : Option (String × String) :=
  match entry.dropWhile (· ≠ '=') with
  | _ :: value => some (String.ofList (entry.takeWhile (· ≠ '=')), String.ofList value)
  | [] => none

def environment : IO (List (String × String)) := do
  let text ← textOfFile "/proc/self/environ"
  return ((text.getD "").toList.splitOn (Char.ofNat 0)).filterMap variableOfEntry

def logLine (entry : LogEntry) : String :=
  entry.fields.foldl (fun line (name, value) => line ++ " " ++ name.shown ++ "=" ++ value.print)
    ("[" ++ entry.level ++ "] " ++ entry.title)

/-- The surroundings of the program. The state is the number of requests sent so far. -/
def world (inherited : List (String × String)) (standardFile : Option String) (bridge : Bridge) :
    World (StateT Nat IO) where
  environment := inherited
  standardFile := standardFile
  fileText path := textOfFile path
  source endpoint := Client.source ⟨endpoint, Json.refusal?, bridge.send⟩
  out := fun line => do
    let stdout ← IO.getStdout
    stdout.putStrLn line
    stdout.flush
  err := fun line => IO.eprintln line
  log entry := IO.eprintln (logLine entry)
  pause seconds := do
    IO.sleep (UInt32.ofNat (min (seconds.toNat * 1000) 0xffffffff))
    return .ok true
  fuel := Nat.pow 2 64

def run (arguments : List String) : IO UInt32 := do
  let inherited ← environment
  let bridge : Bridge :=
    { requests := (inherited.lookup "SWAPWATCH_REQUESTS").getD ""
      replies := (inherited.lookup "SWAPWATCH_REPLIES").getD "" }
  let world := world inherited (← textOfFile ".env") bridge
  let (ending, _) ← (world.run arguments).run 0
  match ending with
  | .failed failure => IO.eprintln failure.message.shown
  | .exit 2 => IO.eprintln "usage: htlc-watcher decode-tx | scan | watch | version"
  | .exit _ => pure ()
  return UInt32.ofNat ending.code

end SwapWatch.Program

def main (arguments : List String) : IO UInt32 :=
  SwapWatch.Program.run arguments
