/-!
The 64-bit binary floating-point numbers. Every operation rounds once, to the nearest number.
-/
namespace Interpolation

/-- A binary floating-point number. A finite one is `significand * 2 ^ exponent` with its sign. -/
inductive Binary64
  | nan
  | infinite (negative : Bool)
  | finite (negative : Bool) (significand : Nat) (exponent : Int)
  deriving DecidableEq, Repr

/-- Numerator and denominator of `n / d` times a power of `base`. -/
def scaleRatio (base : Nat) (e : Int) (n d : Nat) : Nat × Nat :=
  match e with
  | .ofNat k => (n * Nat.pow base k, d)
  | .negSucc k => (n, d * Nat.pow base (k + 1))

def roundEven (n d : Nat) : Nat :=
  let q := n / d
  let r := n % d
  if 2 * r < d then q
  else if d < 2 * r then q + 1
  else q + q % 2

/-- The number of digits of `n` to the given base, none for zero. -/
def digitCount (base n : Nat) : Nat :=
  if n = 0 ∨ base < 2 then 0 else digitCount base (n / base) + 1
termination_by n
decreasing_by exact Nat.div_lt_self (by omega) (by omega)

/-- The greatest `e` with `base ^ e ≤ n / d`, for positive `n` and `d`. -/
def floorLog (base n d : Nat) : Int :=
  if d ≤ n then digitCount base (n / d) - 1
  else -(digitCount base ((d + n - 1) / n - 1) : Int)

namespace Binary64

def precision : Nat := 53

def minExponent : Int := -1074

def maxExponent : Int := 971

/-- The number nearest to `n / d` with the given sign. -/
def ofRatio (negative : Bool) (n d : Nat) : Binary64 :=
  if n = 0 then .finite negative 0 minExponent
  else
    let exponent := max minExponent (floorLog 2 n d + 1 - precision)
    let (p, q) := scaleRatio 2 (-exponent) n d
    let significand := roundEven p q
    let (significand, exponent) :=
      if significand = Nat.pow 2 precision then (Nat.pow 2 (precision - 1), exponent + 1)
      else (significand, exponent)
    if maxExponent < exponent then .infinite negative
    else .finite negative significand exponent

def ofNat (n : Nat) : Binary64 := ofRatio false n 1

/-- Whether the number is not zero. What is not a number is not zero either. -/
def isNonzero : Binary64 → Bool
  | .finite _ significand _ => significand != 0
  | _ => true

def isFinite : Binary64 → Bool
  | .finite .. => true
  | _ => false

def withSign (negative : Bool) : Binary64 → Binary64
  | .nan => .nan
  | .infinite _ => .infinite negative
  | .finite _ significand exponent => .finite negative significand exponent

def mulMagnitude (x y : Binary64) : Binary64 :=
  match x, y with
  | .finite _ m e, .finite _ n f =>
    let (p, q) := scaleRatio 2 (e + f) (m * n) 1
    ofRatio false p q
  | _, _ => .infinite false

/-- The rounded quotient of the magnitudes of two finite numbers, the second of them not zero. -/
def divMagnitude (x y : Binary64) : Binary64 :=
  match x, y with
  | .finite _ m e, .finite _ n f =>
    let (p, q) := scaleRatio 2 (e - f) m n
    ofRatio false p q
  | _, _ => .infinite false

end Binary64

end Interpolation
