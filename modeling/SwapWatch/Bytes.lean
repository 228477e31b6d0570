/-!
# Byte strings

A byte string is a list of bytes, first byte first. Cutting off an exact number of bytes either
succeeds with both parts or says that too few bytes are there.
-/

set_option autoImplicit false

namespace SwapWatch

abbrev Bytes := List UInt8

namespace Bytes

/-- The first `count` bytes and the rest, if there are that many. -/
def splitExact? : Nat → Bytes → Option (Bytes × Bytes)
  | 0, bytes => some ([], bytes)
  | _ + 1, [] => none
  | count + 1, byte :: bytes =>
    (splitExact? count bytes).map fun (front, back) => (byte :: front, back)

theorem splitExact?_eq_some_iff {count : Nat} {bytes front back : Bytes} :
    splitExact? count bytes = some (front, back) ↔ front.length = count ∧ bytes = front ++ back := by
  induction count generalizing bytes front with
  | zero =>
    constructor
    · intro cut
      simp only [splitExact?, Option.some.injEq, Prod.mk.injEq] at cut
      obtain ⟨rfl, rfl⟩ := cut
      simp
    · rintro ⟨empty, rfl⟩
      simp [List.eq_nil_of_length_eq_zero empty, splitExact?]
  | succ count ih =>
    cases bytes with
    | nil =>
      constructor
      · intro cut
        simp [splitExact?] at cut
      · rintro ⟨size, parts⟩
        simp [(List.append_eq_nil_iff.mp parts.symm).1] at size
    | cons byte bytes =>
      simp only [splitExact?, Option.map_eq_some_iff, Prod.mk.injEq, Prod.exists]
      constructor
      · rintro ⟨inner, rest, cut, rfl, rfl⟩
        obtain ⟨size, parts⟩ := ih.mp cut
        simp [size, parts]
      · rintro ⟨size, parts⟩
        cases front with
        | nil => simp at size
        | cons first front =>
          simp only [List.cons_append, List.cons.injEq] at parts
          obtain ⟨rfl, parts⟩ := parts
          exact ⟨front, back, ih.mpr ⟨by simpa using size, parts⟩, rfl, rfl⟩

theorem splitExact?_eq_none_iff {count : Nat} {bytes : Bytes} :
    splitExact? count bytes = none ↔ bytes.length < count := by
  induction count generalizing bytes with
  | zero => simp [splitExact?]
  | succ count ih =>
    cases bytes with
    | nil => simp [splitExact?]
    | cons byte bytes => simp [splitExact?, ih]

end Bytes

end SwapWatch

/-!
## Numbers as bytes

The two byte orders in which the wire format and the scripts write numbers.
-/

namespace SwapWatch.Endian

/-- The number that the bytes write, lowest byte first. -/
def toNat : Bytes → Nat
  | [] => 0
  | low :: high => low.toNat + 256 * toNat high

/-- The `width` low bytes of a number, lowest byte first. -/
def ofNat : Nat → Nat → Bytes
  | 0, _ => []
  | width + 1, value => UInt8.ofNat value :: ofNat width (value / 256)

/-- The number that the bytes write, highest byte first. -/
def toNatBig (bytes : Bytes) : Nat :=
  toNat bytes.reverse

/-- The two's complement reading of the bytes, lowest byte first. -/
def toInt (bytes : Bytes) : Int :=
  Int.bmod (toNat bytes) (Nat.pow 256 bytes.length)

@[simp]
theorem length_ofNat (width value : Nat) : (ofNat width value).length = width := by
  induction width generalizing value with
  | zero => rfl
  | succ width ih => simp [ofNat, ih]

theorem toNat_ofNat (width value : Nat) :
    toNat (ofNat width value) = value % Nat.pow 256 width := by
  induction width generalizing value with
  | zero => simp [ofNat, toNat, Nat.mod_one]
  | succ width ih =>
    simp only [ofNat, toNat, ih, UInt8.toNat_ofNat']
    rw [show Nat.pow 256 (width + 1) = 256 * Nat.pow 256 width from Nat.pow_succ', Nat.mod_mul]

theorem toNat_lt (bytes : Bytes) : toNat bytes < Nat.pow 256 bytes.length := by
  induction bytes with
  | nil => simp [toNat]
  | cons low high ih =>
    have small := low.toNat_lt
    have power : Nat.pow 256 (high.length + 1) = 256 * Nat.pow 256 high.length := Nat.pow_succ'
    rw [toNat, List.length_cons, power]
    omega

theorem ofNat_toNat (bytes : Bytes) : ofNat bytes.length (toNat bytes) = bytes := by
  induction bytes with
  | nil => rfl
  | cons low high ih =>
    have small := low.toNat_lt
    have quotient : (low.toNat + 256 * toNat high) / 256 = toNat high := by omega
    simp only [List.length_cons, toNat, ofNat, quotient, ih, List.cons.injEq, and_true]
    apply UInt8.toNat_inj.mp
    rw [UInt8.toNat_ofNat']
    omega

theorem ofNat_toNatBig {bytes : Bytes} {width : Nat} (size : bytes.length = width) :
    (ofNat width (toNatBig bytes)).reverse = bytes := by
  have written := ofNat_toNat bytes.reverse
  rw [List.length_reverse, size] at written
  rw [toNatBig, written, List.reverse_reverse]

theorem toNatBig_lt {bytes : Bytes} {width : Nat} (size : bytes.length = width) :
    toNatBig bytes < Nat.pow 256 width := by
  have bound := toNat_lt bytes.reverse
  rwa [List.length_reverse, size] at bound

end SwapWatch.Endian
