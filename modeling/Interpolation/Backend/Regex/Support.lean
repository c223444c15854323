import Interpolation.Backend.Regex.Parse

/-!
Which regular expressions can be put to use: they match whole characters and use no tables.
-/
namespace Interpolation

namespace Regex

structure Mode where
  unicode : Bool := true
  ignoreCase : Bool := false
  deriving DecidableEq, Repr

def Mode.set (mode : Mode) (fs : Flags) : Mode :=
  fs.foldl (fun mode (flag, on) =>
    match flag with
    | .unicode => { mode with unicode := on }
    | .ignoreCase => { mode with ignoreCase := on }
    | _ => mode) mode

/-- Whether a shorthand or a negated class is supported: shorthands need the tables, and what is
negated among bytes matches parts of characters. -/
def Mode.allows (mode : Mode) (negated shorthand : Bool) : Bool :=
  if mode.unicode then !shorthand else !negated

def Literal.isSupported (mode : Mode) (l : Literal) : Bool :=
  if mode.unicode then !mode.ignoreCase else !l.isByte || l.char.toNat < 0x80

def Literal.isSupportedInClass (mode : Mode) (l : Literal) : Bool :=
  if mode.unicode then !mode.ignoreCase else l.char.toNat < 0x80

end Regex

mutual

def CharClass.isSupported (mode : Regex.Mode) : CharClass → Bool
  | .empty => true
  | .literal l => l.isSupportedInClass mode
  | .range first last => first.isSupportedInClass mode && last.isSupportedInClass mode
  | .named negated => mode.allows negated false && !(mode.unicode && mode.ignoreCase)
  | .shorthand negated => mode.allows negated true
  | .bracketed negated content => content.isSupported mode && mode.allows negated false
  | .union parts => CharClass.areSupported mode parts
  | .combined left right => left.isSupported mode && right.isSupported mode

def CharClass.areSupported (mode : Regex.Mode) : List CharClass → Bool
  | [] => true
  | part :: parts => part.isSupported mode && CharClass.areSupported mode parts

end

namespace Regex

mutual

/-- The mode after a regular expression, if that is supported. Flags hold up to the end of the group
around them. -/
def after? (mode : Mode) : Regex → Option Mode
  | .empty | .anchor => some mode
  | .flags fs => some (mode.set fs)
  | .literal l => if l.isSupported mode then some mode else none
  | .dot => if mode.unicode then some mode else none
  | .boundary => if mode.unicode then none else some mode
  | .shorthand negated => if mode.allows negated true then some mode else none
  | .bracketed negated content =>
    if content.isSupported mode && mode.allows negated false then some mode else none
  | .repeated r => r.after? mode
  | .group fs r => (r.after? (mode.set fs)).map fun _ => mode
  | .concatenation parts => afterParts? mode parts
  | .alternation choices => afterParts? mode choices

def afterParts? (mode : Mode) : List Regex → Option Mode
  | [] => some mode
  | part :: parts => do afterParts? (← part.after? mode) parts

end

def maxDepth : Nat := 250

/-- Whether a text is a regular expression that can be put to use. -/
def isUsable (text : Text) : Bool :=
  (parse? text).any fun r => r.depth ≤ maxDepth && (r.after? {}).isSome

end Regex

end Interpolation
