/-!
The ranges of words of 64 bits.
-/
namespace Interpolation.Word

/-- The number of values of a word: unsigned words are less than this. -/
def count : Nat := 18446744073709551616

/-- Signed words are less than this, and not less than its negative. -/
def signedBound : Nat := 9223372036854775808

def fitsSigned (n : Int) : Bool :=
  -(signedBound : Int) ≤ n && n < signedBound

end Interpolation.Word
