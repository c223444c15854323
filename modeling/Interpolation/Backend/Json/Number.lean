import Interpolation.Settings.Value
import Interpolation.Number.Decimal
import Interpolation.Number.Word

/-!
Numbers of JSON documents. Floating-point numbers are rounded once for their digits and once for
each scaling, so the last bit may differ from that of the nearest number.
-/
namespace Interpolation.Json

/-- The greatest power of ten that scales in one step. -/
def maxPower : Nat := 308

/-- Appends digits to `gathered` up to the first that would go over the limit, and counts them. -/
def gather (gathered : Nat) : List Char → Nat × Nat
  | [] => (gathered, 0)
  | c :: rest =>
    let next := gathered * 10 + natOfDigits 10 [c]
    if next < Word.count then
      let (result, count) := gather next rest
      (result, count + 1)
    else (gathered, 0)

/-- `x` divided by a power of ten, the greatest power first. -/
def scaleDown (x : Binary64) (power : Nat) : Binary64 :=
  if power ≤ maxPower then x.divMagnitude (.ofNat (Nat.pow 10 power))
  else if x.isNonzero then
    scaleDown (x.divMagnitude (.ofNat (Nat.pow 10 maxPower))) (power - maxPower)
  else x
termination_by power
decreasing_by
  have : maxPower = 308 := rfl
  omega

/-- `x` multiplied by a power of ten, unless that leaves the range. -/
def scaleUp? (x : Binary64) (power : Nat) : Option Binary64 :=
  if x.isNonzero then
    if power ≤ maxPower then
      let scaled := x.mulMagnitude (.ofNat (Nat.pow 10 power))
      if scaled.isFinite then some scaled else none
    else none
  else some x

def float? (negative : Bool) (whole fraction : List Char) (exponent : Int) : Option Binary64 :=
  let (gathered, ofWhole) := gather 0 whole
  let (gathered, ofFraction) := gather gathered fraction
  let power := exponent + (whole.length - ofWhole : Nat) - ofFraction
  let scaled := match power with
    | .ofNat k => scaleUp? (.ofNat gathered) k
    | .negSucc k => some (scaleDown (.ofNat gathered) (k + 1))
  scaled.map (.withSign negative)

def isWhole (digits : List Char) : Bool :=
  digits = ['0'] || (digits ≠ [] && digits.head? ≠ some '0')

def exponent? : Text → Option (Option Int × Text)
  | c :: rest =>
    if c = 'e' || c = 'E' then
      let (negative, rest) := match rest with
        | '-' :: rest => (true, rest)
        | '+' :: rest => (false, rest)
        | _ => (false, rest)
      let digits := rest.takeWhile isDigit
      let magnitude : Int := natOfDigits 10 digits
      if digits = [] then none
      else some (some (if negative then -magnitude else magnitude), rest.drop digits.length)
    else some (none, c :: rest)
  | [] => some (none, [])

def fraction? : Text → Option (Option (List Char) × Text)
  | '.' :: rest =>
    let digits := rest.takeWhile isDigit
    if digits = [] then none else some (some digits, rest.drop digits.length)
  | text => some (none, text)

def number? (text : Text) : Option (Value × Text) := do
  let (negative, text) := match text with
    | '-' :: rest => (true, rest)
    | _ => (false, text)
  let whole := text.takeWhile isDigit
  if !isWhole whole then none
  else
    let (fraction, text) ← fraction? (text.drop whole.length)
    let (exponent, text) ← exponent? text
    let magnitude : Int := natOfDigits 10 whole
    let n := if negative then -magnitude else magnitude
    let isInteger := fraction.isNone && exponent.isNone && !(negative && n = 0)
    if isInteger && Word.fitsSigned n then return (.integer n, text)
    else return (.float (← float? negative whole (fraction.getD []) (exponent.getD 0)), text)

end Interpolation.Json
