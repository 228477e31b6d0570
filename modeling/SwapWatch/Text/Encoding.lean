import SwapWatch.Bytes
import SwapWatch.Text.Hex
import SwapWatch.Text.Points

/-!
# Text as bytes

Two readings of bytes as text: one that takes them for UTF-8 and never fails, and one that finds out
which encoding they are in.
-/

set_option autoImplicit false

/-!
## UTF-8

Reading UTF-8 without failure: of bytes that write no character, the longest piece with which some
character starts, or else a single byte, reads as the replacement character. In front of a text there
may be a byte order mark.
-/

namespace SwapWatch.Text.Utf8

/-- What the first byte of a longer character says. -/
structure Lead where
  bits : Nat
  following : Nat
  /-- The bounds of the second byte. -/
  low : Nat
  high : Nat

def lead? (byte : Nat) : Option Lead :=
  if byte < 0xc2 then none
  else if byte < 0xe0 then some ⟨byte - 0xc0, 1, 0x80, 0xbf⟩
  else if byte < 0xf0 then
    some ⟨byte - 0xe0, 2, if byte = 0xe0 then 0xa0 else 0x80, if byte = 0xed then 0x9f else 0xbf⟩
  else if byte < 0xf5 then
    some ⟨byte - 0xf0, 3, if byte = 0xf0 then 0x90 else 0x80, if byte = 0xf4 then 0x8f else 0xbf⟩
  else none

/-- The character whose first bits are given and which has as many bytes left, if the next bytes write
it, and the bytes after those read. The next byte has bounds of its own. -/
def finish (bits low high : Nat) : Nat → Bytes → Option Char × Bytes
  | 0, bytes => (some (Char.ofNat bits), bytes)
  | _ + 1, [] => (none, [])
  | left + 1, byte :: bytes =>
    if low ≤ byte.toNat ∧ byte.toNat ≤ high then
      finish (64 * bits + byte.toNat % 64) 0x80 0xbf left bytes
    else (none, byte :: bytes)

theorem length_finish (left : Nat) (bits low high : Nat) (bytes : Bytes) :
    (finish bits low high left bytes).2.length ≤ bytes.length := by
  induction left generalizing bits low high bytes with
  | zero => simp [finish]
  | succ left ih =>
    cases bytes with
    | nil => simp [finish]
    | cons byte bytes =>
      rw [finish]
      split
      · exact Nat.le_succ_of_le (ih ..)
      · exact Nat.le_refl _

/-- The character that starts with a byte, if the bytes after it write one, and the bytes after those
read. -/
def next (byte : UInt8) (bytes : Bytes) : Option Char × Bytes :=
  if byte.toNat < 0x80 then (some (Char.ofNat byte.toNat), bytes)
  else
    match lead? byte.toNat with
    | none => (none, bytes)
    | some lead => finish lead.bits lead.low lead.high lead.following bytes

theorem length_next (byte : UInt8) (bytes : Bytes) : (next byte bytes).2.length ≤ bytes.length := by
  rw [next]
  split
  · exact Nat.le_refl _
  split
  · exact Nat.le_refl _
  · exact length_finish ..

def decode : Bytes → List Char
  | [] => []
  | byte :: bytes => (next byte bytes).1.getD replacement :: decode (next byte bytes).2
termination_by bytes => bytes.length
decreasing_by exact Nat.lt_succ_of_le (length_next byte bytes)

def dropMark : List Char → List Char
  | [] => []
  | char :: chars => if char.toNat = 0xfeff then chars else char :: chars

end SwapWatch.Text.Utf8

/-!
## Encodings

A byte order mark in front of a message names the encoding. Without one, the text of the message
starts with two ASCII characters, so the zero bytes among its first four show whether its characters
are written with one, two or four bytes each and in which order. Halves of surrogate pairs are read in
every encoding.
-/

namespace SwapWatch.Text

/-- An encoding of text. The longer units are written with their highest byte first or last. -/
inductive Encoding where
  | utf8
  | utf16 (highFirst : Bool)
  | utf32 (highFirst : Bool)
deriving DecidableEq, Repr

namespace Encoding

def name : Encoding → String
  | utf8 => "utf-8"
  | utf16 highFirst => if highFirst then "utf-16-be" else "utf-16-le"
  | utf32 highFirst => if highFirst then "utf-32-be" else "utf-32-le"

/-- The byte order marks. One of four bytes starts like one of two, so it comes first. -/
def marks : List (Bytes × Encoding) :=
  [([0x00, 0x00, 0xfe, 0xff], utf32 true), ([0xff, 0xfe, 0x00, 0x00], utf32 false),
   ([0xfe, 0xff], utf16 true), ([0xff, 0xfe], utf16 false), ([0xef, 0xbb, 0xbf], utf8)]

def mark? (bytes : Bytes) : Option (Bytes × Encoding) :=
  marks.find? fun (mark, _) => mark.isPrefixOf bytes

def ofBytes : Bytes → Encoding
  | [b0, b1] => if b0 = 0 then utf16 true else if b1 = 0 then utf16 false else utf8
  | b0 :: b1 :: b2 :: b3 :: _ =>
    if b0 = 0 then if b1 = 0 then utf32 true else utf16 true
    else if b1 = 0 then if b2 = 0 ∧ b3 = 0 then utf32 false else utf16 false
    else utf8
  | _ => utf8

inductive Cause where
  | badStart
  | badContinuation
  | ended
  | truncated
  | outOfRange
deriving DecidableEq, Repr

def Cause.message : Cause → String
  | badStart => "invalid start byte"
  | badContinuation => "invalid continuation byte"
  | ended => "unexpected end of data"
  | truncated => "truncated data"
  | outOfRange => "code point not in range(0x110000)"

structure Flaw where
  encoding : Encoding
  start : Nat
  bytes : Bytes
  cause : Cause
deriving DecidableEq, Repr

def Flaw.message (flaw : Flaw) : String :=
  let place :=
    match flaw.bytes with
    | [byte] => "byte 0x" ++ Hex.encode [byte] ++ " in position " ++ toString flaw.start
    | bytes => "bytes in position " ++ toString flaw.start ++ "-" ++
      toString (flaw.start + bytes.length - 1)
  "'" ++ flaw.encoding.name ++ "' codec can't decode " ++ place ++ ": " ++ flaw.cause.message

/-- The half of a surrogate pair that the first three bytes write. -/
def half? : Bytes → Option Point
  | b0 :: b1 :: b2 :: _ =>
    if b0 = 0xed ∧ 0xa0 ≤ b1 ∧ b1 ≤ 0xbf ∧ 0x80 ≤ b2 ∧ b2 ≤ 0xbf then
      some (.ofUnit (0xd000 + 64 * (b1.toNat % 64) + b2.toNat % 64))
    else none
  | _ => none

/-- Why the bytes from some byte on write no character, by the bytes left after those read. -/
def cause (byte : UInt8) (left : Bytes) : Cause :=
  if (Utf8.lead? byte.toNat).isNone then .badStart
  else if left.isEmpty then .ended
  else .badContinuation

def narrow (start : Nat) : Bytes → Except Flaw Points
  | [] => .ok []
  | byte :: bytes =>
    let rest := (Utf8.next byte bytes).2
    let behind := start + 1 + (bytes.length - rest.length)
    match (Utf8.next byte bytes).1, half? (byte :: bytes) with
    | some char, _ => (narrow behind rest).map (.char char :: ·)
    | none, some half => (narrow (start + 3) (bytes.drop 2)).map (half :: ·)
    | none, none =>
      .error ⟨utf8, start, byte :: bytes.take (bytes.length - rest.length), cause byte rest⟩
termination_by bytes => bytes.length
decreasing_by
  · exact Nat.lt_succ_of_le (Utf8.length_next byte bytes)
  · rw [List.length_drop, List.length_cons]
    omega

def units (highFirst : Bool) : Nat → Bytes → Except Flaw (List Nat)
  | _, [] => .ok []
  | start, b0 :: b1 :: bytes =>
    let unit := if highFirst then 256 * b0.toNat + b1.toNat else 256 * b1.toNat + b0.toNat
    (units highFirst (start + 2) bytes).map (unit :: ·)
  | start, [byte] => .error ⟨utf16 highFirst, start, [byte], .truncated⟩

def joinUnits : List Nat → Points
  | high :: low :: units =>
    if Point.isHigh high && Point.isLow low then Point.join high low :: joinUnits units
    else Point.ofUnit high :: joinUnits (low :: units)
  | units => units.map Point.ofUnit

def wide (highFirst : Bool) : Nat → Bytes → Except Flaw Points
  | _, [] => .ok []
  | start, b0 :: b1 :: b2 :: b3 :: bytes =>
    let inOrder := if highFirst then [b0, b1, b2, b3] else [b3, b2, b1, b0]
    let code : Nat := inOrder.foldl (fun sum byte => 256 * sum + byte.toNat) 0
    if code < 0x110000 then (wide highFirst (start + 4) bytes).map (Point.ofUnit code :: ·)
    else .error ⟨utf32 highFirst, start, [b0, b1, b2, b3], .outOfRange⟩
  | start, bytes => .error ⟨utf32 highFirst, start, bytes, .truncated⟩

def decodeIn : Encoding → Nat → Bytes → Except Flaw Points
  | utf8, start, bytes => narrow start bytes
  | utf16 highFirst, start, bytes => (units highFirst start bytes).map joinUnits
  | utf32 highFirst, start, bytes => wide highFirst start bytes

/-- The text of a message without its mark. Places in UTF-8 are counted from behind the mark. -/
def decode (bytes : Bytes) : Except Flaw Points :=
  match mark? bytes with
  | none => decodeIn (ofBytes bytes) 0 bytes
  | some (mark, utf8) => decodeIn utf8 0 (bytes.drop mark.length)
  | some (mark, encoding) => decodeIn encoding mark.length (bytes.drop mark.length)

end Encoding

end SwapWatch.Text
