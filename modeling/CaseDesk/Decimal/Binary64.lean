/-
  Binary floating-point numbers of 64 bits.

  A finite number is `mantissa · 2 ^ exponent` with a sign.  Its mantissa has
  at most 53 bits, and 53 of them unless its exponent is -1074.

  * `Binary64.ofDecimal`: the number nearest to `digits · 10 ^ power`; of two
    that are equally near, the one with an even mantissa.
-/
namespace CaseDesk

/-- A binary floating-point number of 64 bits. -/
inductive Binary64 where
  | finite (negative : Bool) (mantissa : Nat) (exponent : Int)
  | infinite (negative : Bool)
  | nan
  deriving DecidableEq, Repr

namespace Binary64

/-- The least exponent. -/
def minExponent : Int := -1074

/-- The greatest exponent. -/
def maxExponent : Int := 971

/-- The powers of two. -/
def pow2 (n : Nat) : Nat := Nat.pow 2 n

/-- The powers of ten. -/
def pow10 (n : Nat) : Nat := Nat.pow 10 n

/-- The integer nearest to `num / den`; of two equally near ones, the even one. -/
def roundRatio (num den : Nat) : Nat :=
  let low := num / den
  let rest := 2 * (num % den)
  if rest < den then low
  else if den < rest then low + 1
  else low + low % 2

/-- `num / den` in units of `2 ^ exponent`, as another ratio. -/
def inUnits (num den : Nat) (exponent : Int) : Nat × Nat :=
  (num * pow2 (-exponent).toNat, den * pow2 exponent.toNat)

/-- The number nearest to a positive `num / den`. -/
def ofRatio (negative : Bool) (num den : Nat) : Binary64 :=
  let guess : Int := (num.log2 : Int) - den.log2 - 52
  let (n, d) := inUnits num den guess
  let exponent := max minExponent (if n / d < pow2 52 then guess - 1 else guess)
  let (n, d) := inUnits num den exponent
  let mantissa := roundRatio n d
  let (mantissa, exponent) :=
    if mantissa = pow2 53 then (pow2 52, exponent + 1) else (mantissa, exponent)
  if maxExponent < exponent then infinite negative else finite negative mantissa exponent

/-- The number of decimal digits of a positive number. -/
def decimalLength (n : Nat) : Nat := (Nat.toDigits 10 n).length

/-- The number nearest to `digits · 10 ^ power`.  What is smaller or larger than any
    finite number by more than an order is not computed. -/
def ofDecimal (negative : Bool) (digits : Nat) (power : Int) : Binary64 :=
  let order := power + decimalLength digits
  if digits = 0 ∨ order < -400 then finite negative 0 minExponent
  else if 400 < order then infinite negative
  else ofRatio negative (digits * pow10 power.toNat) (pow10 (-power).toNat)

end Binary64

end CaseDesk
