/-
  The shortest decimal that stands for a floating-point number.

  Every real number nearer to a finite number than to its neighbours reads
  back as that number.  Of the decimals among them those with the fewest
  digits are chosen, and of these the one nearest to the number itself.

  * `Binary64.shortest`: the digits and the power of ten of that decimal.
  * `Binary64.text`: a number in positional notation, without an exponent and
    without a point when it is whole.
-/
import CaseDesk.Decimal.Binary64
import CaseDesk.Text.Integer

namespace CaseDesk.Binary64

open Text

/-- The ratio between `2 ^ (exponent - 2)` and `10 ^ power`. -/
def gridRatio (exponent power : Int) : Nat × Nat :=
  (pow2 (exponent - 2).toNat * pow10 (-power).toNat,
    pow2 (2 - exponent).toNat * pow10 power.toNat)

/-- The multiple of `10 ^ power` that reads back as `mantissa · 2 ^ exponent` and is nearest
    to it, if any reads back.  Quarters of the last place measure the distances. -/
def onGrid (mantissa : Nat) (exponent power : Int) : Option Nat :=
  let (up, down) := gridRatio exponent power
  let below := if mantissa = pow2 52 ∧ minExponent < exponent then 1 else 2
  let value := 4 * mantissa * up
  let low := (4 * mantissa - below) * up
  let high := (4 * mantissa + 2) * up
  let readsBack (c : Nat) : Bool :=
    let x := c * down
    if mantissa % 2 = 0 then low ≤ x && x ≤ high else low < x && x < high
  let floor := value / down
  match readsBack floor, readsBack (floor + 1) with
  | true, true => some (if 2 * value < (2 * floor + 1) * down then floor else floor + 1)
  | true, false => some floor
  | false, true => some (floor + 1)
  | false, false => none

/-- The digits and the power of ten of the shortest decimal for `mantissa · 2 ^ exponent`,
    a positive number. -/
def shortest (mantissa : Nat) (exponent : Int) : Nat × Int :=
  let order := ((mantissa.log2 : Int) + exponent + 1) * 30103 / 100000 + 2
  let found := (List.range 24).findSome? fun (i : Nat) =>
    let power := order - (i : Int)
    (onGrid mantissa exponent power).map fun digits => (digits, power)
  found.getD (mantissa, 0)

/-- Digits times a power of ten in positional notation. -/
def positional (digits : Nat) (power : Int) : List Char :=
  let ds := decimal digits
  let places := (-power).toNat
  if places = 0 then ds ++ List.replicate power.toNat '0'
  else if places < ds.length then
    ds.take (ds.length - places) ++ '.' :: ds.drop (ds.length - places)
  else '0' :: '.' :: List.replicate (places - ds.length) '0' ++ ds

/-- A number as a text. -/
def text : Binary64 → String
  | nan => "NaN"
  | infinite negative => if negative then "-inf" else "inf"
  | finite negative mantissa exponent =>
    let magnitude :=
      if mantissa = 0 then ['0'] else
        let (digits, power) := shortest mantissa exponent
        positional digits power
    String.ofList (if negative then '-' :: magnitude else magnitude)

end CaseDesk.Binary64
