import Interpolation.Text.Alphanumeric
import Interpolation.Text.Basic

/-!
Dates and times of TOML documents, kept as text in one normal form.
-/
namespace Interpolation.Toml

def fixedDigits? (count : Nat) (text : Text) : Option (Text × Text) :=
  let digits := text.take count
  if digits.length = count && digits.all isDigit then some (digits, text.drop count) else none

/-- Reads a number of two digits that is at most `greatest`. -/
def twoDigits? (greatest : Nat) (text : Text) : Option (Text × Text) := do
  let (digits, rest) ← fixedDigits? 2 text
  if natOfDigits 10 digits ≤ greatest then some (digits, rest) else none

def isLeapYear (year : Nat) : Bool :=
  year % 4 = 0 && (year % 100 ≠ 0 || year % 400 = 0)

def daysOfMonth (year month : Nat) : Nat :=
  if month = 2 then (if isLeapYear year then 29 else 28)
  else if month = 4 || month = 6 || month = 9 || month = 11 then 30
  else 31

def date? (text : Text) : Option (Text × Text) := do
  let (year, text) ← fixedDigits? 4 text
  let text ← Text.skip? ['-'] text
  let (month, text) ← twoDigits? 12 text
  let text ← Text.skip? ['-'] text
  let (day, text) ← twoDigits? (daysOfMonth (natOfDigits 10 year) (natOfDigits 10 month)) text
  if natOfDigits 10 month = 0 || natOfDigits 10 day = 0 then none
  else return (year ++ '-' :: month ++ '-' :: day, text)

def secondDigits : Nat := 9

/-- Reads the fraction of a second, where there is one. -/
def secondFraction (text : Text) : Text × Text :=
  match text with
  | '.' :: rest =>
    let digits := rest.takeWhile isDigit
    let kept := ((digits.take secondDigits).reverse.dropWhile (· = '0')).reverse
    if digits = [] then ([], text)
    else (if kept = [] then [] else '.' :: kept, rest.drop digits.length)
  | _ => ([], text)

/-- Reads a time of day. A second may be a leap second. -/
def time? (text : Text) : Option (Text × Text) := do
  let (hour, text) ← twoDigits? 23 text
  let text ← Text.skip? [':'] text
  let (minute, text) ← twoDigits? 59 text
  let text ← Text.skip? [':'] text
  let (second, text) ← twoDigits? 60 text
  let (fraction, text) := secondFraction text
  return (hour ++ ':' :: minute ++ ':' :: second ++ fraction, text)

def offsetDigits? (text : Text) : Option (Text × Text) := do
  let (hour, text) ← twoDigits? 23 text
  let text ← Text.skip? [':'] text
  let (minute, text) ← twoDigits? 59 text
  return (hour ++ ':' :: minute, text)

/-- Reads an offset from universal time, where there is one. -/
def offset? : Text → Option (Text × Text)
  | c :: rest =>
    if c = 'Z' || c = 'z' then some (['Z'], rest)
    else if c = '+' then (offsetDigits? rest).map fun (digits, rest) => ('+' :: digits, rest)
    else if c = '-' then
      (offsetDigits? rest).map fun (digits, rest) =>
        (if digits = ['0', '0', ':', '0', '0'] then '+' :: digits else '-' :: digits, rest)
    else some ([], c :: rest)
  | [] => some ([], [])

/-- Reads a date with or without a time, or a time of day. -/
def moment? (text : Text) : Option (Text × Text) :=
  match date? text with
  | none => time? text
  | some (date, rest) =>
    match rest with
    | c :: afterSeparator =>
      if c = 'T' || c = 't' || c = ' ' then
        match time? afterSeparator with
        | some (time, rest) =>
          (offset? rest).map fun (offset, rest) => (date ++ 'T' :: time ++ offset, rest)
        | none => some (date, rest)
      else some (date, rest)
    | [] => some (date, [])

def momentOfText? (text : Text) : Option Text :=
  match moment? text with
  | some (moment, []) => some moment
  | _ => none

end Interpolation.Toml
