import Interpolation.Number.Decimal
import Interpolation.Number.Word
import Interpolation.Text.Lowercase

/-!
Numbers that a whole text reads as.
-/
namespace Interpolation.Number

def signed : Text → Bool × Text
  | '-' :: rest => (true, rest)
  | '+' :: rest => (false, rest)
  | text => (false, text)

/-- The integer that the whole text reads as, if it fits a signed word of 64 bits. -/
def integer? (text : Text) : Option Int :=
  let (negative, digits) := signed text
  let magnitude : Int := natOfDigits 10 digits
  let n := if negative then -magnitude else magnitude
  if digits ≠ [] && digits.all isDigit && Word.fitsSigned n then some n else none

def exponent? : Text → Option Int
  | [] => some 0
  | c :: rest =>
    let (negative, digits) := signed rest
    let magnitude : Int := natOfDigits 10 digits
    if (c = 'e' || c = 'E') && digits ≠ [] && digits.all isDigit then
      some (if negative then -magnitude else magnitude)
    else none

/-- The floating-point number that the whole text reads as. Either side of the point may be without
digits, but not both. -/
def float? (text : Text) : Option Binary64 :=
  let (negative, unsigned) := signed text
  match lowercaseString (String.ofList unsigned) with
  | "nan" => some .nan
  | "inf" | "infinity" => some (.infinite negative)
  | _ =>
    let whole := unsigned.takeWhile isDigit
    let (fraction, rest) := match unsigned.drop whole.length with
      | '.' :: rest =>
        let fraction := rest.takeWhile isDigit
        (fraction, rest.drop fraction.length)
      | rest => ([], rest)
    if whole = [] && fraction = [] then none
    else (exponent? rest).map fun exponent =>
      (Decimal.ofParts negative whole fraction exponent).toBinary64

end Interpolation.Number
