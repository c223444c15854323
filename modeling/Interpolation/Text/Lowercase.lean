import Interpolation.Text.Basic
import Interpolation.Text.CasingTable

/-!
Full lowercase mapping of texts, without a locale. The capital sigma is `ς` at the end of a word
and `σ` elsewhere.
-/
namespace Interpolation

def isCased (c : Char) : Bool :=
  casedRanges.contains c

def isCaseIgnorable (c : Char) : Bool :=
  caseIgnorableRanges.contains c

namespace CaseRun

def contains (run : CaseRun) (c : Char) : Bool :=
  run.first ≤ c.toNat && c.toNat ≤ run.last && (c.toNat - run.first) % run.step == 0

end CaseRun

/-- The lowercase mapping of one character out of context: `İ` becomes an `i` and a dot above, all
others become one character. -/
def lowercaseChar (c : Char) : Text :=
  if c = '\u0130' then ['i', '\u0307']
  else match lowercaseRuns.find? (·.contains c) with
    | some run => [Char.ofNat (c.toNat + run.offset).toNat]
    | none => [c]

/-- Whether the first character that is not case-ignorable is cased. -/
def meetsCased (t : Text) : Bool :=
  match t.dropWhile isCaseIgnorable with
  | c :: _ => isCased c
  | [] => false

namespace Text

/-- Lowercases `t`, which stands after the reverse of `passed`. -/
def lowercaseAfter (passed : Text) : Text → Text
  | [] => []
  | c :: rest =>
    let mapped :=
      if c = 'Σ' then (if meetsCased passed && !meetsCased rest then ['ς'] else ['σ'])
      else lowercaseChar c
    mapped ++ lowercaseAfter (c :: passed) rest

def lowercase (t : Text) : Text :=
  lowercaseAfter [] t

end Text

def lowercaseString (s : String) : String :=
  String.ofList (Text.lowercase s.toList)

end Interpolation
