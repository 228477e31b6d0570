/-!
# Texts that hold halves of surrogate pairs

Two UTF-16 units write a character beyond the first 65536, and JSON text can hold one of the two
alone. Such a half is no character, so a text from outside is a list of points: characters and halves.
-/

set_option autoImplicit false

namespace SwapWatch.Text

/-- A unit that is half of a surrogate pair. -/
structure Half where
  unit : Nat
  inRange : 0xd800 ≤ unit ∧ unit < 0xe000
deriving DecidableEq, Repr

inductive Point where
  | char (value : Char)
  | half (value : Half)
deriving DecidableEq, Repr

abbrev Points := List Point

def replacement : Char := Char.ofNat 0xfffd

namespace Point

def isHigh (unit : Nat) : Bool :=
  0xd800 ≤ unit && unit < 0xdc00

def isLow (unit : Nat) : Bool :=
  0xdc00 ≤ unit && unit < 0xe000

def join (high low : Nat) : Point :=
  .char (Char.ofNat (0x10000 + 0x400 * (high - 0xd800) + (low - 0xdc00)))

def ofUnit (unit : Nat) : Point :=
  if inRange : 0xd800 ≤ unit ∧ unit < 0xe000 then .half ⟨unit, inRange⟩ else .char (Char.ofNat unit)

def isHalf : Point → Bool
  | char _ => false
  | half _ => true

def char? : Point → Option Char
  | char value => some value
  | half _ => none

def shown : Point → Char
  | char value => value
  | half _ => replacement

end Point

namespace Points

def ofString (text : String) : Points :=
  text.toList.map .char

instance : Coe String Points :=
  ⟨ofString⟩

/-- The characters of a text without halves. -/
def string? (points : Points) : Option String :=
  (points.mapM Point.char?).map String.ofList

/-- A text whose halves are replaced by a character. -/
def shown (points : Points) : String :=
  String.ofList (points.map Point.shown)

@[simp]
theorem string?_ofString (text : String) : (ofString text).string? = some text := by
  have each : Point.char? ∘ Point.char = fun char => pure (id char) := rfl
  rw [string?, ofString, List.mapM_map, each, List.mapM_pure]
  simp

@[simp]
theorem shown_ofString (text : String) : (ofString text).shown = text := by
  have each : Point.shown ∘ Point.char = id := rfl
  simp [shown, ofString, each]

/-- A run of halves in a text. -/
structure Run where
  first : Half
  start : Nat
  length : Nat
deriving DecidableEq, Repr

def run? (points : Points) : Option Run :=
  match points.dropWhile (!·.isHalf) with
  | .half first :: others =>
    some ⟨first, (points.takeWhile (!·.isHalf)).length, 1 + (others.takeWhile (·.isHalf)).length⟩
  | _ => none

def Run.message (run : Run) : String :=
  let place :=
    if run.length = 1 then
      "character '\\u" ++ String.ofList (Nat.toDigits 16 run.first.unit) ++ "' in position " ++
        toString run.start
    else
      "characters in position " ++ toString run.start ++ "-" ++ toString (run.start + run.length - 1)
  "'utf-8' codec can't encode " ++ place ++ ": surrogates not allowed"

end Points

end SwapWatch.Text
