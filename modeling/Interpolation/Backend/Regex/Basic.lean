import Interpolation.Text.Basic

/-!
Regular expressions as trees. `depth` counts how deep one nests.
-/
namespace Interpolation

inductive Flag
  | ignoreCase
  | multiLine
  | dotAll
  | swapGreed
  | unicode
  | lineEnds
  | verbose
  deriving DecidableEq, Repr

def Flag.ofChar? : Char → Option Flag
  | 'i' => some ignoreCase
  | 'm' => some multiLine
  | 's' => some dotAll
  | 'U' => some swapGreed
  | 'u' => some unicode
  | 'R' => some lineEnds
  | 'x' => some verbose
  | _ => none

abbrev Flags := List (Flag × Bool)

namespace Regex

/-- A character that stands for itself. A code of two hexadecimal digits may also mean a byte. -/
structure Literal where
  char : Char
  isByte : Bool := false
  deriving DecidableEq, Repr

end Regex

/-- What stands in the brackets of a class: characters, ranges, named classes, shorthands such as
`\d`, further classes, several of these, or two parts with an operator between them. -/
inductive CharClass
  | empty
  | literal (l : Regex.Literal)
  | range (first last : Regex.Literal)
  | named (negated : Bool)
  | shorthand (negated : Bool)
  | bracketed (negated : Bool) (content : CharClass)
  | union (parts : List CharClass)
  | combined (left right : CharClass)
  deriving Repr

/-- A regular expression. An anchor matches at an end of the text or of a line, a boundary where a
word begins or ends. -/
inductive Regex
  | empty
  | flags (fs : Flags)
  | literal (l : Regex.Literal)
  | dot
  | anchor
  | boundary
  | shorthand (negated : Bool)
  | bracketed (negated : Bool) (content : CharClass)
  | repeated (r : Regex)
  | group (fs : Flags) (r : Regex)
  | concatenation (parts : List Regex)
  | alternation (choices : List Regex)
  deriving Repr

namespace CharClass

def ofParts : List CharClass → CharClass
  | [] => empty
  | [part] => part
  | parts => union parts

mutual

def depth : CharClass → Nat
  | bracketed _ content => content.depth + 1
  | union parts => depthOfParts parts + 1
  | combined left right => max left.depth right.depth + 1
  | _ => 0

def depthOfParts : List CharClass → Nat
  | [] => 0
  | part :: parts => max part.depth (depthOfParts parts)

end

end CharClass

namespace Regex

def ofParts : List Regex → Regex
  | [] => empty
  | [part] => part
  | parts => concatenation parts

/-- The choice between what was read before and the parts read last. -/
def ofChoices (choices parts : List Regex) : Regex :=
  if choices.isEmpty then ofParts parts else alternation (choices ++ [ofParts parts])

mutual

def depth : Regex → Nat
  | bracketed _ content => content.depth + 1
  | repeated r => r.depth + 1
  | group _ r => r.depth + 1
  | concatenation parts => depthOfParts parts + 1
  | alternation choices => depthOfParts choices + 1
  | _ => 0

def depthOfParts : List Regex → Nat
  | [] => 0
  | part :: parts => max part.depth (depthOfParts parts)

end

end Regex

end Interpolation
