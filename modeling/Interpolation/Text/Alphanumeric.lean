import Interpolation.Text.AlphanumericTable
import Interpolation.Text.NumeralTable

/-!
Letters and digits, over all of Unicode and within ASCII.
-/
namespace Interpolation

/-- Whether `c` is a letter or a number of any script. -/
def isAlphanumeric (c : Char) : Bool :=
  alphanumericRanges.contains c

def isAlphabetic (c : Char) : Bool :=
  isAlphanumeric c && !numeralRanges.contains c

def isDigit (c : Char) : Bool :=
  '0' ≤ c && c ≤ '9'

def isAsciiLetter (c : Char) : Bool :=
  ('a' ≤ c && c ≤ 'z') || ('A' ≤ c && c ≤ 'Z')

def isAsciiAlphanumeric (c : Char) : Bool :=
  isAsciiLetter c || isDigit c

/-- The value of a digit in bases up to sixteen, in either case of the letters. -/
def digitValue? (c : Char) : Option Nat :=
  if isDigit c then some (c.toNat - '0'.toNat)
  else if 'a' ≤ c && c ≤ 'f' then some (c.toNat - 'a'.toNat + 10)
  else if 'A' ≤ c && c ≤ 'F' then some (c.toNat - 'A'.toNat + 10)
  else none

def natOfDigits (base : Nat) (digits : List Char) : Nat :=
  digits.foldl (fun n c => n * base + (digitValue? c).getD 0) 0

/-- The character with the code that hexadecimal digits give. -/
def charOfDigits? (digits : List Char) : Option Char :=
  if digits.all fun c => (digitValue? c).isSome then
    let code := natOfDigits 16 digits
    if code < 0xD800 || (0xE000 ≤ code && code < 0x110000) then some (Char.ofNat code) else none
  else none

end Interpolation
