import Interpolation.Number.Decimal

/-!
The shortest decimal of a binary number, and of several the nearest.
-/
namespace Interpolation

namespace Binary64

/-- Whether `n / d` lies in the interval around `significand * 2 ^ exponent` whose numbers round to
it. The interval reaches half way to the neighbours, and its ends belong to it when the significand
is even. Below a power of two the neighbour is half as far away. -/
def roundsTo (significand : Nat) (exponent : Int) (n d : Nat) : Bool :=
  let below :=
    if significand = Nat.pow 2 (precision - 1) ∧ minExponent < exponent then 4 * significand - 1
    else 4 * significand - 2
  let above := 4 * significand + 2
  let (p, q) := scaleRatio 2 (exponent - 2) 1 1
  if significand % 2 = 0 then below * p * d ≤ n * q && n * q ≤ above * p * d
  else below * p * d < n * q && n * q < above * p * d

/-- The nearest of the decimals with `count` digits that round to `significand * 2 ^ exponent`. -/
def decimalOfCount? (significand : Nat) (exponent : Int) (count : Nat) : Option (Nat × Int) :=
  let (n, d) := scaleRatio 2 exponent significand 1
  let power := floorLog 10 n d + 1 - count
  let (scaled, unit) := scaleRatio 10 (-power) n d
  let lower := scaled / unit
  let rounds (digits : Nat) : Bool :=
    let (p, q) := scaleRatio 10 power digits 1
    roundsTo significand exponent p q
  match rounds lower, rounds (lower + 1) with
  | true, true =>
    if 2 * (scaled % unit) < unit then some (lower, power) else some (lower + 1, power)
  | true, false => some (lower, power)
  | false, true => some (lower + 1, power)
  | false, false => none

def maxDigits : Nat := 17

/-- The shortest decimal of a finite number that is not zero. -/
def shortest (negative : Bool) (significand : Nat) (exponent : Int) : Decimal :=
  match (List.range' 1 maxDigits).findSome? (decimalOfCount? significand exponent) with
  | some (digits, power) =>
    if digits % 10 = 0 then ⟨negative, digits / 10, power + 1⟩ else ⟨negative, digits, power⟩
  | none => ⟨negative, 0, 0⟩

/-- The number in the fewest digits that read back as it, in positional notation. -/
def toText : Binary64 → Text
  | .nan => ['N', 'a', 'N']
  | .infinite negative => (if negative then ['-'] else []) ++ ['i', 'n', 'f']
  | .finite negative 0 _ => Decimal.toText ⟨negative, 0, 0⟩
  | .finite negative significand exponent => (shortest negative significand exponent).toText

end Binary64

end Interpolation
