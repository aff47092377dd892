/-!
The shortest decimal that reads back as a given double. A finite double is taken apart into an
integer times a power of two; the reals that round to it form an interval; on the grids of 1, 2, …
17 digits the first point inside that interval is the answer. All arithmetic is exact. Back from a
decimal leads the double that is nearest to it.
-/

namespace RepoRules.Decimal

/-- The number `digits * 10 ^ exponent`. -/
structure Scientific where
  digits : Nat
  exponent : Int
deriving Repr, DecidableEq

/-- The magnitude `mantissa * 2 ^ exponent` of a finite double. `narrow` marks the powers of two
whose lower neighbour is only half as far away as the upper one. -/
structure Binary where
  mantissa : Nat
  exponent : Int
  narrow : Bool
deriving Repr, DecidableEq

def Binary.ofBits (bits : UInt64) : Binary :=
  let fraction := bits.toNat % 0x10000000000000
  let biased := bits.toNat / 0x10000000000000 % 0x800
  if biased = 0 then ⟨fraction, -1074, false⟩
  else ⟨0x10000000000000 + fraction, Int.ofNat biased - 1075, fraction == 0 && biased != 1⟩

/-- The reals that round to one double, as numerators over one common denominator. The ends
belong to it when the mantissa is even. -/
structure Interval where
  low : Nat
  value : Nat
  high : Nat
  denominator : Nat
  closed : Bool
deriving Repr, DecidableEq

def Binary.interval (binary : Binary) : Interval :=
  let scale := Nat.pow 2 (binary.exponent - 2).toNat
  let below := if binary.narrow then 1 else 2
  { low := (4 * binary.mantissa - below) * scale
    value := 4 * binary.mantissa * scale
    high := (4 * binary.mantissa + 2) * scale
    denominator := Nat.pow 2 (2 - binary.exponent).toNat
    closed := binary.mantissa % 2 == 0 }

/-- Whether `numerator / denominator` lies inside the interval, for any denominator. -/
def Interval.contains (interval : Interval) (numerator denominator : Nat) : Bool :=
  let point := numerator * interval.denominator
  let low := interval.low * denominator
  let high := interval.high * denominator
  if interval.closed then low ≤ point && point ≤ high else low < point && point < high

/-- The two grid points around the value, on the grid of multiples of `10 ^ exponent`: the one
inside the interval, of two the nearer, and of two equally near ones the even one. -/
def Interval.gridPoint? (interval : Interval) (exponent : Int) : Option Nat :=
  let up := Nat.pow 10 exponent.toNat
  let down := Nat.pow 10 (-exponent).toNat
  let scaled := interval.value * down
  let unit := interval.denominator * up
  let lower := scaled / unit
  let upper := lower + 1
  match interval.contains (lower * up) down, interval.contains (upper * up) down with
  | false, false => none
  | true, false => some lower
  | false, true => some upper
  | true, true =>
      let toLower := scaled - lower * unit
      let toUpper := upper * unit - scaled
      if toLower < toUpper then some lower
      else if toUpper < toLower then some upper
      else some (if lower % 2 == 0 then lower else upper)

/-- How many digits stand before the decimal point, counted with zeros behind the point as
negative: `10 ^ (magnitude - 1) ≤ value < 10 ^ magnitude`. -/
def Interval.magnitude (interval : Interval) : Int :=
  if interval.denominator ≤ interval.value then
    (Nat.toDigits 10 (interval.value / interval.denominator)).length
  else
    let smaller := (List.range 330).find? fun places =>
      interval.denominator ≤ interval.value * Nat.pow 10 (places + 1)
    Int.negOfNat (smaller.getD 0)

def stripZeros (digits : Nat) (exponent : Int) : (fuel : Nat) → Scientific
  | 0 => ⟨digits, exponent⟩
  | fuel + 1 =>
      if digits % 10 = 0 ∧ digits ≠ 0 then stripZeros (digits / 10) (exponent + 1) fuel
      else ⟨digits, exponent⟩

/-- The fewest digits that read back, and of those the ones nearest to the value. -/
def Interval.shortest (interval : Interval) : Scientific :=
  let magnitude := interval.magnitude
  let found := (List.range 17).findSome? fun count =>
    let exponent := magnitude - Int.ofNat (count + 1)
    (interval.gridPoint? exponent).map fun digits => stripZeros digits exponent 20
  found.getD ⟨0, 0⟩

def shortest (value : Float) : Scientific :=
  let binary := Binary.ofBits value.toBits
  if binary.mantissa = 0 then ⟨0, 0⟩ else binary.interval.shortest

/-- The number with the given significant digits and power of ten, correctly rounded. Powers far
beyond the range of numbers are cut off: they give zero or infinity anyway. -/
def nearest (significand : Nat) (digitCount : Nat) (exponent : Int) : Float :=
  if significand = 0 then 0.0
  else if exponent < 0 then
    let drop := min exponent.natAbs (400 + digitCount)
    Float.ofScientific significand true drop
  else Float.ofScientific significand false (min exponent.natAbs 400)

end RepoRules.Decimal
