import Mathlib
import RepoRules.Decimal.Layout

/-!
Integers that need more bits than a double has. Rounding moves the bits that are too many out of the
number and keeps of them only how they compare with one half; what is left is the nearest multiple
of a power of two, and of two equally near ones the even one. No double lies between two such
multiples, so that the double is the nearest of all.
-/

namespace RepoRules.Decimal

open Float.Model Float.Model.UnpackedFloat

/-- The bits of a number that are left when its last `places` are moved out, and what the two bits
behind them say of those. -/
def IsShift (number places : Nat) (left : ExtendedMantissa) : Prop :=
  ∃ rest, number = left.mantissa * 2 ^ places + rest ∧ rest < 2 ^ places ∧
    (left.roundBit = true ↔ 2 ^ places ≤ 2 * rest) ∧
    (left.stickyBit = true ↔ rest ≠ 0 ∧ 2 * rest ≠ 2 ^ places)

theorem is_shift_one {number places : Nat} {left : ExtendedMantissa}
    (shift : IsShift number places left) :
    IsShift number (places + 1) left.shiftRightOne := by
  obtain ⟨rest, split, small, round, sticky⟩ := shift
  have parts : left.mantissa = left.mantissa / 2 * 2 + left.mantissa % 2 := by omega
  have twice : 2 ^ (places + 1) = 2 * 2 ^ places := by ring
  refine ⟨left.mantissa % 2 * 2 ^ places + rest, ?_, ?_, ?_, ?_⟩
  · calc number = left.mantissa * 2 ^ places + rest := split
      _ = (left.mantissa / 2 * 2 + left.mantissa % 2) * 2 ^ places + rest := by rw [← parts]
      _ = left.mantissa / 2 * 2 ^ (places + 1) + (left.mantissa % 2 * 2 ^ places + rest) := by
          ring
  all_goals
    simp only [ExtendedMantissa.shiftRightOne, bne_iff_ne, Bool.or_eq_true, round, sticky, twice]
    rcases Nat.mod_two_eq_zero_or_one left.mantissa with even | odd
    · simp only [even, zero_mul, zero_add]
      omega
    · simp only [odd, one_mul]
      omega

theorem is_shift_shift (number places : Nat) :
    IsShift number places ((⟨number, false, false⟩ : ExtendedMantissa) >>> places) := by
  induction places with
  | zero => exact ⟨0, by simp [HShiftRight.hShiftRight, Nat.repeat]⟩
  | succ places induction => exact is_shift_one induction

/-- The multiple of `2 ^ places` with this factor is nearest to a number, and where another one is
as near, the factor is even. -/
structure IsRounded (number places rounded : Nat) : Prop where
  above : 2 * number ≤ 2 * (rounded * 2 ^ places) + 2 ^ places
  below : 2 * (rounded * 2 ^ places) ≤ 2 * number + 2 ^ places
  even : 2 * number = 2 * (rounded * 2 ^ places) + 2 ^ places ∨
    2 * (rounded * 2 ^ places) = 2 * number + 2 ^ places → rounded % 2 = 0

theorem is_rounded_of_shift {number places : Nat} {left : ExtendedMantissa}
    (shift : IsShift number places left) : IsRounded number places left.roundedMantissa := by
  obtain ⟨mantissa, round, sticky⟩ := left
  obtain ⟨rest, split, small, rounds, sticks⟩ := shift
  dsimp only at split rounds sticks
  have next : (mantissa + 1) * 2 ^ places = mantissa * 2 ^ places + 2 ^ places := by ring
  cases round <;> cases sticky <;>
    simp only [Bool.false_eq_true, true_iff, false_iff] at rounds sticks
  case false.false | false.true =>
    have down (sticky : Bool) :
        ExtendedMantissa.roundedMantissa ⟨mantissa, false, sticky⟩ = mantissa := by
      cases sticky <;> rfl
    rw [down]
    constructor <;> omega
  case true.false =>
    have half : ExtendedMantissa.roundedMantissa ⟨mantissa, true, false⟩ =
      mantissa + mantissa % 2 := rfl
    rw [half]
    rcases Nat.mod_two_eq_zero_or_one mantissa with even | odd
    · rw [even, add_zero]
      constructor <;> omega
    · rw [odd]
      constructor <;> omega
  case true.true =>
    have up : ExtendedMantissa.roundedMantissa ⟨mantissa, true, true⟩ = mantissa + 1 := rfl
    rw [up]
    constructor <;> omega

namespace IsRounded

variable {number places rounded : Nat}

theorem bounds (near : IsRounded number places rounded)
    (lower : 2 ^ (52 + places) ≤ number) (upper : number < 2 ^ (53 + places)) :
    2 ^ 52 ≤ rounded ∧ rounded ≤ 2 ^ 53 := by
  rw [pow_add] at lower upper
  constructor
  · by_contra small
    have bound : (rounded + 1) * 2 ^ places ≤ 2 ^ 52 * 2 ^ places :=
      Nat.mul_le_mul_right _ (by omega)
    have above := near.above
    rw [add_mul, one_mul] at bound
    omega
  · by_contra large
    have bound : (2 ^ 53 + 1) * 2 ^ places ≤ rounded * 2 ^ places :=
      Nat.mul_le_mul_right _ (by omega)
    have below := near.below
    have unit := Nat.two_pow_pos places
    rw [add_mul, one_mul] at bound
    omega

theorem of_scaled {extra : Nat}
    (near : IsRounded (number * 2 ^ extra) (places + extra) rounded) :
    IsRounded number places rounded := by
  obtain ⟨above, below, even⟩ := near
  have unit : 0 < 2 ^ extra := Nat.two_pow_pos extra
  have scaled : rounded * 2 ^ (places + extra) = rounded * 2 ^ places * 2 ^ extra := by ring
  rw [scaled, pow_add] at above below even
  refine ⟨?_, ?_, fun half => even ?_⟩
  · exact Nat.le_of_mul_le_mul_right (by linarith) unit
  · exact Nat.le_of_mul_le_mul_right (by linarith) unit
  · refine half.imp (fun more => ?_) fun less => ?_
    · linear_combination 2 ^ extra * more
    · linear_combination 2 ^ extra * less

theorem half (near : IsRounded number places rounded) :
    |(rounded * 2 ^ places - number : ℚ)| ≤ 2 ^ places / 2 := by
  have above : (2 * number : ℚ) ≤ 2 * (rounded * 2 ^ places) + 2 ^ places := by
    exact_mod_cast near.above
  have below : (2 * (rounded * 2 ^ places) : ℚ) ≤ 2 * number + 2 ^ places := by
    exact_mod_cast near.below
  rw [abs_le]
  constructor <;> linarith

theorem even_of_half (near : IsRounded number places rounded)
    (half : |(rounded * 2 ^ places - number : ℚ)| = 2 ^ places / 2) : rounded % 2 = 0 := by
  have unit : (0 : ℚ) ≤ 2 ^ places / 2 := by positivity
  apply near.even
  rcases (abs_eq unit).1 half with more | less
  · right
    have equal : (2 * (rounded * 2 ^ places) : ℚ) = 2 * number + 2 ^ places := by linarith
    exact_mod_cast equal
  · left
    have equal : (2 * number : ℚ) = 2 * (rounded * 2 ^ places) + 2 ^ places := by linarith
    exact_mod_cast equal

/-- The other multiples are at least half a step away. -/
theorem far (near : IsRounded number places rounded) {factor : Int} (other : factor ≠ rounded) :
    (2 ^ places / 2 : ℚ) ≤ |(factor * 2 ^ places - number : ℚ)| := by
  have unit : (0 : ℚ) < 2 ^ places := by positivity
  have apart : (1 : ℚ) ≤ |(factor - rounded : ℚ)| := by
    have whole : (1 : Int) ≤ |factor - rounded| := Int.one_le_abs (sub_ne_zero.2 other)
    exact_mod_cast whole
  have step : (2 ^ places : ℚ) ≤ |((factor - rounded) * 2 ^ places : ℚ)| := by
    rw [abs_mul, abs_of_pos unit]
    exact le_mul_of_one_le_left unit.le apart
  have between : |((factor - rounded) * 2 ^ places : ℚ)| ≤
      |(factor * 2 ^ places - number : ℚ)| + |(rounded * 2 ^ places - number : ℚ)| := by
    have split : ((factor - rounded) * 2 ^ places : ℚ) =
        (factor * 2 ^ places - number) - (rounded * 2 ^ places - number) := by ring
    rw [split]
    exact abs_sub _ _
  have close := near.half
  linarith

theorem closest (near : IsRounded number places rounded) (factor : Int) :
    |(rounded * 2 ^ places - number : ℚ)| ≤ |(factor * 2 ^ places - number : ℚ)| := by
  by_cases same : factor = rounded
  · rw [same, Int.cast_natCast]
  · exact near.half.trans (near.far same)

end IsRounded

theorem log2_eq {number power : Nat} (lower : 2 ^ power ≤ number)
    (upper : number < 2 ^ (power + 1)) : number.log2 = power := by
  have positive : number ≠ 0 := ((Nat.two_pow_pos power).trans_le lower).ne'
  exact (Nat.log2_eq_iff positive).2 ⟨lower, upper⟩

theorem target_exponent (mantissa : Nat) (exponent : Int) :
    Format.binary64.targetExponent (totalExponent mantissa exponent) =
      max (mantissa.log2 + exponent - 52) (-1074) := by
  have bits : Format.binary64.mantissaBits = 53 := rfl
  have lowest : Format.binary64.minExponent = -1074 := by decide
  rw [Format.targetExponent, totalExponent, bits, lowest]
  congr 1
  omega

theorem shift_to_target {mantissa : Nat} {exponent : Int} {places : Nat}
    (target : max (mantissa.log2 + exponent - 52) (-1074) = exponent + places) :
    shiftToTargetExponent Format.binary64 mantissa exponent .exact =
      ((⟨mantissa, false, false⟩ : ExtendedMantissa) >>> places, exponent + places) := by
  have amount : (exponent + places - exponent).toNat = places := by omega
  rw [shiftToTargetExponent, target_exponent, target, shiftToExponent]
  simp only [amount, ExtendedMantissa.ofMantissaAndAccuracy]

/-- The mantissa and exponent that stand for a rounded number: where it got one bit more by the
rounding, it is halved. -/
inductive Settled (rounded : Nat) (exponent : Int) : Nat → Int → Prop
  | same (small : rounded < 2 ^ 53) : Settled rounded exponent rounded exponent
  | halved (full : rounded = 2 ^ 53) : Settled rounded exponent (2 ^ 52) (exponent + 1)

theorem Settled.keeps {rounded places mantissa : Nat} {exponent : Int}
    (settled : Settled rounded places mantissa exponent) (least : 2 ^ 52 ≤ rounded) :
    2 ^ 52 ≤ mantissa ∧ mantissa < 2 ^ 53 ∧ places ≤ exponent ∧ exponent ≤ places + 1 ∧
      (mantissa * 2 ^ exponent : ℚ) = rounded * 2 ^ places ∧
      (rounded % 2 = 0 → mantissa % 2 = 0) := by
  cases settled with
  | same small => exact ⟨least, small, le_rfl, by omega, by rw [zpow_natCast], id⟩
  | halved full =>
      refine ⟨le_rfl, by decide, by omega, le_rfl, ?_, fun _ => rfl⟩
      rw [zpow_add_one₀ two_ne_zero, zpow_natCast, full]
      push_cast
      ring

theorem round_with_accuracy {number places : Nat} {exponent : Int}
    (lower : 2 ^ (52 + places) ≤ number) (upper : number < 2 ^ (53 + places))
    (range : -1074 ≤ exponent + places) :
    ∃ rounded mantissa last positive, IsRounded number places rounded ∧
      Settled rounded (exponent + places) mantissa last ∧
      roundWithAccuracy Format.binary64 .positive number exponent .exact =
        .finite .positive mantissa last positive := by
  have bits : number.log2 = 52 + places := log2_eq lower (by rw [add_right_comm]; exact upper)
  have first : shiftToTargetExponent Format.binary64 number exponent .exact =
      ((⟨number, false, false⟩ : ExtendedMantissa) >>> places, exponent + places) :=
    shift_to_target (by omega)
  have near := is_rounded_of_shift (is_shift_shift number places)
  rw [roundWithAccuracy, first]
  dsimp only
  generalize ((⟨number, false, false⟩ : ExtendedMantissa) >>> places).roundedMantissa = rounded
    at near
  obtain ⟨least, most⟩ := near.bounds lower upper
  -- The second shift is for the one mantissa that the rounding made too long.
  rcases most.lt_or_eq with small | full
  · have kept : rounded.log2 = 52 := log2_eq least small
    have second := @shift_to_target rounded (exponent + places) 0 (by omega)
    rw [second]
    refine ⟨rounded, rounded, exponent + places, by omega, near, .same small, ?_⟩
    rw [dif_neg (by change rounded ≠ 0; omega)]
    congr 1
    omega
  · subst full
    have longer : (2 ^ 53).log2 = 53 := Nat.log2_two_pow
    have second := @shift_to_target (2 ^ 53) (exponent + places) 1 (by omega)
    rw [second]
    exact ⟨2 ^ 53, 2 ^ 52, exponent + places + 1, by decide, near, .halved rfl, rfl⟩

theorem of_int_eq_pack {number : Nat} (large : 2 ^ 53 ≤ number) :
    Float.ofInt number = Float.ofModel (Float.Model.pack
      (roundWithAccuracy Format.binary64 .positive (number * 2 ^ 53) (-53) .exact)) := by
  have slow : Float.ofInt number = Float.ofModel (Float.Model.ofScientific number 0) := by
    change Float.ofScientific number false 0 = _
    rw [Float.ofScientific, dif_neg (by omega)]
    rfl
  have exponents : (2 : Int) ^ Format.binary64.exponentBits = 2048 := rfl
  have moved : number <<< Format.binary64.mantissaBits * 10 ^ (0 : Int).toNat =
      number * 2 ^ 53 := by
    rw [Nat.shiftLeft_eq, Int.toNat_zero, pow_zero, mul_one]
    rfl
  rw [slow, Float.Model.ofScientific, UnpackedFloat.ofScientific, dif_neg (by omega), exponents,
    if_neg (by decide), if_neg (by omega), if_pos le_rfl, UnpackedFloat.mul, moved]
  rfl

def exactValue (double : Float) : ℚ :=
  let magnitude := Binary.ofBits double.toBits
  (if isNegative double then -1 else 1) * magnitude.mantissa * 2 ^ magnitude.exponent

/-- No finite double is nearer to a number, and where one of another value is as near, it is the
mantissa of this one that is even. -/
structure IsNearest (number : Int) (double : Float) : Prop where
  finite : double.isFinite = true
  closest : ∀ other : Float, other.isFinite = true →
    |exactValue double - number| ≤ |exactValue other - number|
  even : ∀ other : Float, other.isFinite = true →
    |exactValue double - number| = |exactValue other - number| →
      exactValue other = exactValue double ∨ (Binary.ofBits double.toBits).mantissa % 2 = 0

theorem mantissa_lt (bits : UInt64) : (Binary.ofBits bits).mantissa < 2 ^ 53 := by
  rw [Binary.ofBits]
  split
  all_goals
    dsimp only
    omega

/-- From a power of two on, all doubles are multiples of what the mantissa leaves of it. -/
theorem multiple_or_small (double : Float) (places : Nat) :
    (∃ factor : Int, exactValue double = factor * 2 ^ places) ∨
      |exactValue double| < 2 ^ (52 + places) := by
  have bound : ((Binary.ofBits double.toBits).mantissa : ℚ) < 2 ^ 53 := by
    exact_mod_cast mantissa_lt double.toBits
  rw [exactValue]
  generalize (Binary.ofBits double.toBits).mantissa = mantissa at bound
  generalize (Binary.ofBits double.toBits).exponent = exponent
  rcases le_or_gt (places : Int) exponent with coarse | fine
  · left
    obtain ⟨more, rfl⟩ := Int.le.dest coarse
    refine ⟨(if isNegative double then -1 else 1) * mantissa * 2 ^ more, ?_⟩
    rw [zpow_add₀ two_ne_zero, zpow_natCast, zpow_natCast]
    push_cast
    ring
  · right
    have size : |(if isNegative double then -1 else 1 : ℚ)| = 1 := by
      split <;> simp
    have power : (2 : ℚ) ^ exponent ≤ 2 ^ ((places : Int) - 1) :=
      zpow_le_zpow_right₀ one_le_two (by omega)
    have positive : (0 : ℚ) < 2 ^ exponent := by positivity
    rw [abs_mul, abs_mul, size, one_mul, Nat.abs_cast, abs_of_pos positive]
    calc (mantissa : ℚ) * 2 ^ exponent
        < 2 ^ 53 * 2 ^ exponent := mul_lt_mul_of_pos_right bound positive
      _ ≤ 2 ^ 53 * 2 ^ ((places : Int) - 1) := by gcongr
      _ = 2 ^ (52 + places) := by
        rw [zpow_sub_one₀ two_ne_zero, zpow_natCast, pow_add]
        ring

theorem nearest_of_rounded {number places rounded : Nat} {double : Float}
    (lower : 2 ^ (52 + places) ≤ number) (near : IsRounded number places rounded)
    (finite : double.isFinite = true) (value : exactValue double = rounded * 2 ^ places)
    (even : rounded % 2 = 0 → (Binary.ofBits double.toBits).mantissa % 2 = 0) :
    IsNearest number double := by
  have least : (2 ^ 52 * 2 ^ places : ℚ) ≤ number := by
    rw [← pow_add]
    exact_mod_cast lower
  -- The smaller doubles lie behind a multiple, which is no nearer than the rounded one.
  have beyond (other : Float) (small : |exactValue other| < 2 ^ (52 + places)) :
      |exactValue double - number| < |exactValue other - number| := by
    have edge := near.closest (2 ^ 52)
    rw [Int.cast_pow, Int.cast_ofNat, abs_of_nonpos (sub_nonpos.2 least)] at edge
    rw [pow_add] at small
    have below := (abs_lt.1 small).2
    rw [value, abs_of_neg (by linarith : exactValue other - number < 0)]
    linarith
  refine ⟨finite, fun other _ => ?_, fun other _ equal => ?_⟩
  · rw [Int.cast_natCast]
    rcases multiple_or_small other places with ⟨factor, multiple⟩ | small
    · rw [value, multiple]
      exact near.closest factor
    · exact (beyond other small).le
  · rw [Int.cast_natCast] at equal
    rcases multiple_or_small other places with ⟨factor, multiple⟩ | small
    · by_cases same : factor = rounded
      · left
        rw [multiple, value, same, Int.cast_natCast]
      · right
        rw [value, multiple] at equal
        exact even (near.even_of_half (le_antisymm near.half (equal ▸ near.far same)))
    · exact absurd equal (beyond other small).ne

section Packed

variable {mantissa : Nat} {exponent : Int} (positive : 0 < mantissa) (least : 2 ^ 52 ≤ mantissa)
  (most : mantissa < 2 ^ 53) (low : -1074 ≤ exponent) (high : exponent ≤ 971)

theorem to_nat_components (exponent : BitVec 11) (mantissa : BitVec 52) :
    (packComponents Format.binary64 .positive exponent mantissa).toNat =
      exponent.toNat * 2 ^ 52 + mantissa.toNat := by
  have below : mantissa.toNat < 2 ^ 52 := mantissa.isLt
  have joined (left : BitVec 12) :
      (left ++ mantissa).toNat = left.toNat * 2 ^ 52 + mantissa.toNat := by
    rw [BitVec.toNat_append, ← Nat.shiftLeft_add_eq_or_of_lt below, Nat.shiftLeft_eq]
  change ((0#1 ++ exponent : BitVec 12) ++ mantissa).toNat = _
  rw [joined, BitVec.toNat_append, BitVec.toNat_zero, Nat.zero_shiftLeft, Nat.zero_or]

include least most low high in
theorem pack_normal :
    UnpackedFloat.pack Format.binary64 (.finite .positive mantissa exponent positive) =
      packComponents Format.binary64 .positive (BitVec.ofNat 11 (exponent + 1075).toNat)
        (BitVec.ofNat 52 mantissa) := by
  have bias : Format.binary64.exponentBias = 1023 := by decide
  have bits : Format.binary64.mantissaBits = 53 := rfl
  have biased : (exponent + 1023 + 52).toNat = (exponent + 1075).toNat := by omega
  have log : mantissa.log2 = 52 := log2_eq least most
  rw [UnpackedFloat.pack, bias, bits, log]
  dsimp only
  rw [if_neg (by omega), if_pos rfl]
  congr 2

include least most low high in
theorem is_finite_pack :
    (Float.Model.pack (.finite .positive mantissa exponent positive)).isFinite = true := by
  have field : BitVec.ofNat 11 (exponent + 1075).toNat ≠ -1#11 := by
    intro same
    have value := congrArg BitVec.toNat same
    rw [BitVec.toNat_ofNat, Nat.mod_eq_of_lt (by omega)] at value
    change (exponent + 1075).toNat = 2047 at value
    omega
  rw [Float.Model.isFinite, Float.Model.unpack, Float.Model.pack]
  dsimp only
  rw [pack_normal positive least most low high, UnpackedFloat.unpack,
    unpackExponent_packComponents, if_neg field]
  split
  · split <;> rfl
  · rfl

include least most low high in
theorem of_bits_pack :
    let double := Float.ofModel (Float.Model.pack (.finite .positive mantissa exponent positive))
    (Binary.ofBits double.toBits).mantissa = mantissa ∧
      exactValue double = mantissa * 2 ^ exponent := by
  intro double
  have bits : double.toBits.toNat =
      (exponent + 1075).toNat * 2 ^ 52 + (mantissa - 2 ^ 52) := by
    have fraction : mantissa % 2 ^ 52 = mantissa - 2 ^ 52 := by omega
    have field : (exponent + 1075).toNat % 2 ^ 11 = (exponent + 1075).toNat :=
      Nat.mod_eq_of_lt (by omega)
    change (UInt64.ofBitVec (UnpackedFloat.pack Format.binary64 _)).toNat = _
    rw [UInt64.toNat_ofBitVec, pack_normal positive least most low high, to_nat_components,
      BitVec.toNat_ofNat, BitVec.toNat_ofNat, fraction, field]
  have fraction : double.toBits.toNat % 0x10000000000000 = mantissa - 0x10000000000000 := by omega
  have field : double.toBits.toNat / 0x10000000000000 % 0x800 = (exponent + 1075).toNat := by omega
  have sign : isNegative double = false := by
    rw [isNegative, bits, beq_eq_false_iff_ne]
    omega
  have parts : (Binary.ofBits double.toBits).mantissa = mantissa ∧
      (Binary.ofBits double.toBits).exponent = exponent := by
    rw [Binary.ofBits, fraction, field, if_neg (by omega)]
    constructor
    · change 0x10000000000000 + (mantissa - 0x10000000000000) = mantissa
      omega
    · change ((exponent + 1075).toNat : Int) - 1075 = exponent
      omega
  rw [exactValue, sign, parts.1, parts.2]
  exact ⟨rfl, by simp⟩

end Packed

/-- An integer with more bits than a double has becomes the nearest double. -/
theorem of_int_nearest {number places : Nat} (wide : 1 ≤ places) (range : places ≤ 970)
    (lower : 2 ^ (52 + places) ≤ number) (upper : number < 2 ^ (53 + places)) :
    IsNearest number (Float.ofInt number) := by
  have large : 2 ^ 53 ≤ number := (Nat.pow_le_pow_right two_pos (by omega)).trans lower
  have scaled (power : Nat) : 2 ^ (power + (places + 53)) = 2 ^ (power + places) * 2 ^ 53 := by
    ring
  obtain ⟨rounded, mantissa, exponent, positive, scaledNear, settled, packed⟩ :=
    @round_with_accuracy (number * 2 ^ 53) (places + 53) (-53)
      (by rw [scaled]; exact Nat.mul_le_mul_right _ lower)
      (by rw [scaled]; exact Nat.mul_lt_mul_of_pos_right upper (Nat.two_pow_pos 53))
      (by omega)
  have near := scaledNear.of_scaled
  have place : (-53 + (places + 53 : Nat) : Int) = places := by omega
  rw [place] at settled
  obtain ⟨normal, short, behind, before, same, even⟩ :=
    settled.keeps (near.bounds lower upper).1
  have low : -1074 ≤ exponent := by omega
  have high : exponent ≤ 971 := by omega
  obtain ⟨kept, value⟩ := of_bits_pack positive normal short low high
  rw [of_int_eq_pack large, packed]
  refine nearest_of_rounded lower near ?_ (value.trans same) fun paired => ?_
  · exact is_finite_pack positive normal short low high
  · rw [kept]
    exact even paired

end RepoRules.Decimal
