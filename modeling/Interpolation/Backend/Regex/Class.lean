import Interpolation.Backend.Regex.Basic
import Interpolation.Text.Alphanumeric
import Interpolation.Text.Blank

/-!
Reading the parts of regular expressions, and the classes that brackets enclose.
-/
namespace Interpolation.Regex

/-- Drops blank characters and comments where the text is verbose. -/
def skipIgnored (verbose inComment : Bool) : Text → Text
  | [] => []
  | c :: rest =>
    if !verbose then c :: rest
    else if inComment then skipIgnored verbose (c ≠ '\n') rest
    else if c = '#' then skipIgnored verbose true rest
    else if isBlank c then skipIgnored verbose false rest
    else c :: rest

def remaining (verbose : Bool) (text : Text) : Text :=
  skipIgnored verbose false text

/-! ## Escapes -/

def metaChars : List Char :=
  ['\\', '.', '+', '*', '?', '(', ')', '|', '[', ']', '{', '}', '^', '$', '#', '&', '-', '~']

def isEscapable (c : Char) : Bool :=
  metaChars.contains c || (c.toNat < 0x80 && !isAsciiAlphanumeric c && c ≠ '<' && c ≠ '>')

def charOfLetter? : Char → Option Char
  | 'a' => some '\x07'
  | 'f' => some '\x0c'
  | 't' => some '\t'
  | 'n' => some '\n'
  | 'r' => some '\r'
  | 'v' => some '\x0b'
  | _ => none

def codeLength? : Char → Option Nat
  | 'x' => some 2
  | 'u' => some 4
  | 'U' => some 8
  | _ => none

def codeDigits? (verbose : Bool) : Nat → Text → Option (List Char × Text)
  | 0, text => some ([], text)
  | count + 1, text =>
    match remaining verbose text with
    | [] => none
    | c :: rest =>
      if (digitValue? c).isSome then
        (codeDigits? verbose count rest).map fun (digits, rest) => (c :: digits, rest)
      else none

/-- Reads what follows a backslash. Properties of characters are not known. -/
def escape? (verbose : Bool) : Text → Option (Regex × Text)
  | [] => none
  | c :: rest =>
    match codeLength? c with
    | some count => do
      let (digits, rest) ← codeDigits? verbose count rest
      return (.literal ⟨← charOfDigits? digits, count = 2⟩, rest)
    | none =>
      if isEscapable c then some (.literal ⟨c, false⟩, rest)
      else if c = 'd' || c = 's' || c = 'w' then some (.shorthand false, rest)
      else if c = 'D' || c = 'S' || c = 'W' then some (.shorthand true, rest)
      else if c = 'A' || c = 'z' then some (.anchor, rest)
      else if c = 'b' || c = 'B' || c = '<' || c = '>' then some (.boundary, rest)
      else (charOfLetter? c).map fun char => (.literal ⟨char, false⟩, rest)

/-! ## Classes -/

def classNames : List Text :=
  ["alnum", "alpha", "ascii", "blank", "cntrl", "digit", "graph", "lower", "print", "punct",
    "space", "upper", "word", "xdigit"].map String.toList

/-- Reads a named class from after its bracket on, and tells whether it is negated. -/
def named? : Text → Option (Bool × Text)
  | ':' :: rest =>
    let (negated, rest) := match rest with
      | '^' :: rest => (true, rest)
      | _ => (false, rest)
    let name := rest.takeWhile (· ≠ ':')
    match rest.drop name.length with
    | ':' :: ']' :: rest => if classNames.contains name then some (negated, rest) else none
    | _ => none
  | _ => none

def classAtom? (verbose : Bool) : Text → Option (Regex × Text)
  | [] => none
  | '\\' :: rest => escape? verbose rest
  | c :: rest => some (.literal ⟨c, false⟩, rest)

/-- The character after a hyphen, as far as it decides whether the hyphen makes a range. In verbose
text it is looked for behind blank characters and the sign of one comment. -/
def afterHyphen (verbose : Bool) (text : Text) : Option Char :=
  if !verbose then text.head?
  else
    match Text.dropBlanks text with
    | '#' :: rest => ((Text.dropBlanks rest).head?).or text.head?
    | [] => text.head?
    | c :: _ => some c

def partOfAtom? : Regex → Option CharClass
  | .literal l => some (.literal l)
  | .shorthand negated => some (.shorthand negated)
  | _ => none

/-- Reads a part of a class: an atom, or a range from one character to another that is not before
it. -/
def part? (verbose : Bool) (text : Text) : Option (CharClass × Text) := do
  let (first, rest) ← classAtom? verbose text
  match remaining verbose rest with
  | [] => none
  | '-' :: rest =>
    let next := afterHyphen verbose rest
    if next = some ']' || next = some '-' then return (← partOfAtom? first, '-' :: rest)
    else
      let (last, rest) ← classAtom? verbose (remaining verbose rest)
      match first, last with
      | .literal l, .literal m => if l.char ≤ m.char then some (.range l m, rest) else none
      | _, _ => none
  | rest => return (← partOfAtom? first, rest)

/-- Reads hyphens, at most `fuel` of them, which stand for themselves at the front of a class. -/
def hyphens (verbose : Bool) : Nat → Text → List CharClass × Text
  | 0, text => ([], text)
  | fuel + 1, text =>
    match remaining verbose text with
    | '-' :: rest =>
      let (more, rest) := hyphens verbose fuel rest
      (.literal ⟨'-', false⟩ :: more, rest)
    | text => ([], text)

/-- A class whose closing bracket was not read yet: what stands before its last operator, and the
parts after that. -/
structure OpenClass where
  negated : Bool
  left : Option CharClass := none
  parts : List CharClass := []

namespace OpenClass

def content (c : OpenClass) : CharClass :=
  match c.left with
  | none => .ofParts c.parts
  | some left => .combined left (.ofParts c.parts)

def add (part : CharClass) (c : OpenClass) : OpenClass :=
  { c with parts := c.parts ++ [part] }

def cut (c : OpenClass) : OpenClass :=
  { c with left := some c.content, parts := [] }

end OpenClass

/-- Begins a class after its bracket. A closing bracket stands for itself where it comes first. -/
def openClass (verbose : Bool) (text : Text) : OpenClass × Text :=
  let (negated, text) := match remaining verbose text with
    | '^' :: rest => (true, rest)
    | text => (false, text)
  let (parts, text) := hyphens verbose text.length text
  match parts, remaining verbose text with
  | [], ']' :: rest => ({ negated, parts := [.literal ⟨']', false⟩] }, rest)
  | parts, text => ({ negated, parts }, text)

/-- Reads the rest of a class, in at most `fuel` parts, and the classes around it. -/
def classRest? (verbose : Bool) (enclosing : List OpenClass) (current : OpenClass) :
    Nat → Text → Option (OpenClass × Text)
  | 0, _ => none
  | fuel + 1, text =>
    match remaining verbose text with
    | '[' :: rest =>
      match named? rest with
      | some (negated, rest) =>
        classRest? verbose enclosing (current.add (.named negated)) fuel rest
      | none =>
        let (inner, rest) := openClass verbose rest
        classRest? verbose (current :: enclosing) inner fuel rest
    | ']' :: rest =>
      match enclosing with
      | [] => some (current, rest)
      | outer :: enclosing =>
        let closed := .bracketed current.negated current.content
        classRest? verbose enclosing (outer.add closed) fuel rest
    | '&' :: '&' :: rest => classRest? verbose enclosing current.cut fuel rest
    | '-' :: '-' :: rest => classRest? verbose enclosing current.cut fuel rest
    | '~' :: '~' :: rest => classRest? verbose enclosing current.cut fuel rest
    | text => do
      let (part, rest) ← part? verbose text
      classRest? verbose enclosing (current.add part) fuel rest

def class? (verbose : Bool) (text : Text) : Option (Regex × Text) :=
  let (current, rest) := openClass verbose text
  (classRest? verbose [] current (text.length + 1) rest).map fun (c, rest) =>
    (.bracketed c.negated c.content, rest)

end Interpolation.Regex
