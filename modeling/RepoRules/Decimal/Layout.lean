import RepoRules.Decimal.Shortest

/-!
The two written forms of a decimal: positional, and with an exponent. Which of them a number gets
is decided where numbers are written.
-/

namespace RepoRules.Decimal

/-- Whether the sign bit is set; it is also set for a negative zero. -/
def isNegative (value : Float) : Bool :=
  value.toBits.toNat / 0x8000000000000000 == 1

namespace Scientific

/-- The exponent of the first digit. -/
def leading (decimal : Scientific) : Int :=
  decimal.exponent + Int.ofNat (Nat.toDigits 10 decimal.digits).length - 1

def positional (decimal : Scientific) (whole : String) : String :=
  let digits := Nat.toDigits 10 decimal.digits
  if 0 ≤ decimal.exponent then
    String.ofList (digits ++ List.replicate decimal.exponent.toNat '0') ++ whole
  else
    let places := (-decimal.exponent).toNat
    if places < digits.length then
      String.ofList (digits.take (digits.length - places)) ++ "." ++
        String.ofList (digits.drop (digits.length - places))
    else "0." ++ String.ofList (List.replicate (places - digits.length) '0' ++ digits)

/-- One digit, the other digits behind a point if there are any, and the exponent behind an `e`.
A positive exponent is preceded by `plus`. -/
def exponential (decimal : Scientific) (plus : String) : String :=
  let digits := Nat.toDigits 10 decimal.digits
  let fraction := digits.drop 1
  let mantissa := String.ofList (digits.take 1) ++
    if fraction.isEmpty then "" else "." ++ String.ofList fraction
  let leading := decimal.leading
  mantissa ++ "e" ++ (if 0 ≤ leading then plus ++ toString leading.toNat
    else "-" ++ toString (-leading).toNat)

end Scientific

end RepoRules.Decimal
