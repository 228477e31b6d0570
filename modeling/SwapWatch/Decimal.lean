/-!
# Floats and their decimal text

Floats are read from decimal text, and shown as the shortest text that is read back as them.
-/

set_option autoImplicit false

/-!
## The nearest float

A decimal is a number of digits times a power of ten. Powers beyond the range of floats are decided
without being computed.
-/

namespace SwapWatch.Decimal

/-- A decimal `± digits · 10 ^ tens`. -/
structure Scientific where
  negative : Bool
  digits : Nat
  tens : Int
deriving DecidableEq, Repr

def Scientific.nearest (decimal : Scientific) : Float :=
  let point := decimal.tens + (Nat.toDigits 10 decimal.digits).length
  let magnitude : Float :=
    if decimal.digits = 0 ∨ point < -330 then 0.0
    else if 310 < point then 1.0 / 0.0
    else Float.ofScientific decimal.digits (decimal.tens < 0) decimal.tens.natAbs
  if decimal.negative then -magnitude else magnitude

/-!
## The shortest text

A finite float is `m · 2 ^ q`. Of the decimals that read back as this float the shortest is taken,
and of equally short ones the nearest. The digits are written positionally as long as the exponent
of the first one lies in `-4 … 15`, and with an exponent otherwise.
-/

/-- A positive binary number `mantissa · 2 ^ exponent`. -/
structure Binary where
  mantissa : Nat
  exponent : Int
  /-- Is the next smaller float only half as far away as the next larger one? -/
  closerBelow : Bool

/-- The magnitude that the low sixty-three bits of a finite float write. -/
def Binary.ofBits (bits : Nat) : Binary :=
  let field : Nat := bits / Nat.pow 2 52 % 2048
  let fraction : Nat := bits % Nat.pow 2 52
  if field = 0 then ⟨fraction, -1074, false⟩
  else ⟨Nat.pow 2 52 + fraction, (field : Int) - 1075, fraction = 0 && field > 1⟩

def Binary.whole? (value : Binary) : Option Nat :=
  let divisor := Nat.pow 2 (-value.exponent).toNat
  if value.mantissa % divisor = 0 then
    some (value.mantissa * Nat.pow 2 value.exponent.toNat / divisor)
  else none

def compareScaled (left : Nat) (tens : Int) (right : Nat) (twos : Int) : Ordering :=
  compare (left * Nat.pow 10 tens.toNat * Nat.pow 2 (-twos).toNat)
    (right * Nat.pow 2 twos.toNat * Nat.pow 10 (-tens).toNat)

def Binary.quotient (value : Binary) (tens : Int) : Nat :=
  (value.mantissa * Nat.pow 2 value.exponent.toNat * Nat.pow 10 (-tens).toNat) /
    (Nat.pow 10 tens.toNat * Nat.pow 2 (-value.exponent).toNat)

/-- Does `digits · 10 ^ tens` read back as the value? The two ends of the interval around the value
belong to it when the mantissa is even. -/
def Binary.admits (value : Binary) (digits : Nat) (tens : Int) : Bool :=
  let below := 4 * value.mantissa - (if value.closerBelow then 1 else 2)
  let above := 4 * value.mantissa + 2
  let low := compareScaled digits tens below (value.exponent - 2)
  let high := compareScaled digits tens above (value.exponent - 2)
  if value.mantissa % 2 = 0 then low != .lt && high != .gt else low == .gt && high == .lt

def Binary.leadingExponent (value : Binary) : Int :=
  ((Nat.toDigits 10 (value.quotient (-400))).length : Int) - 401

/-- The nearer of the two neighbours of the value on the grid of multiples of `10 ^ tens` that read
back, if either does. A tie goes to the even neighbour. -/
def Binary.onGrid? (value : Binary) (tens : Int) : Option Nat :=
  let lower := value.quotient tens
  match value.admits lower tens, value.admits (lower + 1) tens with
  | false, false => none
  | true, false => some lower
  | false, true => some (lower + 1)
  | true, true =>
    match compareScaled (2 * lower + 1) tens (2 * value.mantissa) value.exponent with
    | .lt => some (lower + 1)
    | .gt => some lower
    | .eq => some (if lower % 2 = 0 then lower else lower + 1)

/-- The first grid with a hit, from one digit on. Seventeen digits always hit. -/
def Binary.shortest (value : Binary) : Nat × Int :=
  let leading := value.leadingExponent
  let hits := (List.range 18).filterMap fun (count : Nat) =>
    let tens := leading - (count : Int)
    (value.onGrid? tens).map fun digits => (digits, tens)
  hits.headD (value.quotient (leading - 16), leading - 16)

def dropZeros : Nat → Nat × Int → Nat × Int
  | 0, decimal => decimal
  | fuel + 1, (digits, tens) =>
    if digits ≠ 0 ∧ digits % 10 = 0 then dropZeros fuel (digits / 10, tens + 1) else (digits, tens)

def layout (digits : Nat) (tens : Int) : String :=
  let chars := Nat.toDigits 10 digits
  let point := tens + chars.length
  if 0 < point ∧ point ≤ 16 then
    if 0 ≤ tens then String.ofList (chars ++ List.replicate tens.toNat '0' ++ ['.', '0'])
    else String.ofList (chars.take point.toNat ++ '.' :: chars.drop point.toNat)
  else if -4 < point ∧ point ≤ 0 then
    String.ofList ('0' :: '.' :: List.replicate (-point).toNat '0' ++ chars)
  else
    let exponent := point - 1
    let size := Nat.toDigits 10 exponent.natAbs
    let padded := if size.length < 2 then '0' :: size else size
    let fraction := if chars.length ≤ 1 then [] else '.' :: chars.drop 1
    String.ofList (chars.take 1 ++ fraction ++ 'e' :: (if exponent < 0 then '-' else '+') :: padded)

def shortest (value : Float) : String :=
  if value.isNaN then "nan"
  else
    let sign := if value.toBits.toNat / Nat.pow 2 63 = 1 then "-" else ""
    if value.isInf then sign ++ "inf"
    else
      let magnitude := value.toBits.toNat % Nat.pow 2 63
      if magnitude = 0 then sign ++ "0.0"
      else
        let (digits, tens) := dropZeros 20 (Binary.ofBits magnitude).shortest
        sign ++ layout digits tens

end SwapWatch.Decimal
