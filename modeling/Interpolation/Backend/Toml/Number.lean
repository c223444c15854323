import Interpolation.Settings.Value
import Interpolation.Number.Reading

/-!
Integers and floating-point numbers of TOML documents.
-/
namespace Interpolation.Toml

/-- Reads digits with single underscores between them; what follows is left. -/
def digits (isDigitChar : Char → Bool) : Text → List Char × Text
  | [] => ([], [])
  | c :: rest =>
    if isDigitChar c then
      match rest with
      | '_' :: d :: rest' =>
        if isDigitChar d then
          let (more, rest) := digits isDigitChar (d :: rest')
          (c :: more, rest)
        else ([c], '_' :: d :: rest')
      | rest =>
        let (more, rest) := digits isDigitChar rest
        (c :: more, rest)
    else ([], c :: rest)

/-- Reads the digits of an integer without leading zeros. -/
def whole? (text : Text) : Option (List Char × Text) :=
  let (whole, rest) := digits isDigit text
  if whole = [] || (whole.head? = some '0' && whole ≠ ['0']) then none else some (whole, rest)

def fitting? (n : Int) : Option Int :=
  if Word.fitsSigned n then some n else none

def based? (base : Nat) (text : Text) : Option (Int × Text) := do
  let (found, rest) := digits (fun c => (digitValue? c).any (· < base)) text
  if found = [] then none
  else return (← fitting? (natOfDigits base found), rest)

def integer? : Text → Option (Int × Text)
  | '0' :: 'x' :: rest => based? 16 rest
  | '0' :: 'o' :: rest => based? 8 rest
  | '0' :: 'b' :: rest => based? 2 rest
  | text => do
    let (negative, text) := Number.signed text
    let (whole, rest) ← whole? text
    let n : Int := natOfDigits 10 whole
    return (← fitting? (if negative then -n else n), rest)

def exponent? : Text → Option (Int × Text)
  | c :: rest =>
    if c = 'e' || c = 'E' then
      let (negative, rest) := Number.signed rest
      let (found, rest) := digits isDigit rest
      let n : Int := natOfDigits 10 found
      if found = [] then none else some (if negative then -n else n, rest)
    else none
  | [] => none

def fraction? : Text → Option (List Char × Text)
  | '.' :: rest =>
    let (found, rest) := digits isDigit rest
    if found = [] then none else some (found, rest)
  | _ => none

/-- Reads a floating-point number, which has a fraction or an exponent or both. A positive one has
to be in range, while a negative one may go to minus infinity. -/
def decimal? (text : Text) : Option (Binary64 × Text) := do
  let (negative, text) := Number.signed text
  let (whole, text) ← whole? text
  let (fraction, exponent, rest) ←
    match fraction? text with
    | some (fraction, rest) =>
      match exponent? rest with
      | some (exponent, rest) => some (fraction, exponent, rest)
      | none => some (fraction, 0, rest)
    | none => (exponent? text).map fun (exponent, rest) => ([], exponent, rest)
  let x := (Decimal.ofParts negative whole fraction exponent).toBinary64
  if x = .infinite false then none else return (x, rest)

/-- Reads infinity or what is not a number, with or without a sign. -/
def special? (text : Text) : Option (Binary64 × Text) :=
  let (negative, text) := Number.signed text
  match text with
  | 'i' :: 'n' :: 'f' :: rest => some (.infinite negative, rest)
  | 'n' :: 'a' :: 'n' :: rest => some (.nan, rest)
  | _ => none

def number? (text : Text) : Option (Value × Text) :=
  match decimal? text with
  | some (x, rest) => some (.float x, rest)
  | none =>
    match special? text with
    | some (x, rest) => some (.float x, rest)
    | none => (integer? text).map fun (n, rest) => (.integer n, rest)

end Interpolation.Toml
