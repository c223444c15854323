import Interpolation.Number.Binary64
import Interpolation.Text.Alphanumeric
import Interpolation.Text.Basic

/-!
Decimal numbers: reading their parts, their nearest binary number, and writing them out in
positions.
-/
namespace Interpolation

/-- The number `digits * 10 ^ exponent` with its sign. -/
structure Decimal where
  negative : Bool
  digits : Nat
  exponent : Int
  deriving DecidableEq, Repr

namespace Decimal

def ofParts (negative : Bool) (whole fraction : List Char) (exponent : Int) : Decimal :=
  ⟨negative, natOfDigits 10 (whole ++ fraction), exponent - fraction.length⟩

/-- From this power of ten on, every number is out of the binary range. -/
def overflowPower : Int := 310

/-- Below this power of ten, every number rounds to zero. -/
def underflowPower : Int := -330

def toBinary64 (x : Decimal) : Binary64 :=
  let magnitude := digitCount 10 x.digits + x.exponent
  if x.digits = 0 ∨ magnitude < underflowPower then .ofRatio x.negative 0 1
  else if overflowPower < magnitude then .infinite x.negative
  else
    let (n, d) := scaleRatio 10 x.exponent x.digits 1
    .ofRatio x.negative n d

/-- The number in positional notation, without an exponent and without a point where no digit
follows it. -/
def toText (x : Decimal) : Text :=
  let sign := if x.negative then ['-'] else []
  let digits := Nat.toDigits 10 x.digits
  sign ++ match x.exponent with
    | .ofNat k => digits ++ List.replicate k '0'
    | .negSucc k =>
      let places := k + 1
      let padded := List.replicate (places + 1 - digits.length) '0' ++ digits
      padded.take (padded.length - places) ++ '.' :: padded.drop (padded.length - places)

end Decimal

end Interpolation
