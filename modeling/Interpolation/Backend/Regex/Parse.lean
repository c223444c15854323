import Interpolation.Backend.Regex.Class

/-!
Reading a text as a regular expression. Counted repetition is not known.
-/
namespace Interpolation.Regex

/-- Reads flags up to the sign after them. A minus turns off those after it, at least one. `on`
tells that there was none yet, `dangling` that it was read last. -/
def flags? (read : Flags) (on dangling : Bool) : Text → Option (Flags × Text)
  | [] => none
  | c :: rest =>
    if c = ':' || c = ')' then (if dangling then none else some (read, c :: rest))
    else if c = '-' then (if on then flags? read false true rest else none)
    else do
      let flag ← Flag.ofChar? c
      if read.any (·.1 = flag) then none else flags? (read ++ [(flag, on)]) on false rest

def isNameInitial (c : Char) : Bool :=
  c = '_' || isAlphabetic c

def isNameChar (c : Char) : Bool :=
  c = '_' || c = '.' || c = '[' || c = ']' || isAlphanumeric c

def groupName? (text : Text) : Option (Text × Text) :=
  let name := text.takeWhile (· ≠ '>')
  match name, text.drop name.length with
  | c :: more, '>' :: rest =>
    if isNameInitial c && more.all isNameChar then some (name, rest) else none
  | _, _ => none

/-- What an opening parenthesis begins: flags for the rest of the group around it, or a group. -/
inductive Opening
  | flags (fs : Flags)
  | group (fs : Flags) (name : Option Text)

def opening? : Text → Option (Opening × Text)
  | '?' :: 'P' :: '<' :: rest | '?' :: '<' :: rest =>
    (groupName? rest).map fun (name, rest) => (.group [] (some name), rest)
  | '?' :: rest => do
    match ← flags? [] true false rest with
    | (fs, ':' :: rest) => return (.group fs none, rest)
    | (fs, ')' :: rest) => if fs = [] then none else return (.flags fs, rest)
    | _ => none
  | text => some (.group [] none, text)

def verboseAfter (verbose : Bool) (fs : Flags) : Bool :=
  (fs.lookup .verbose).getD verbose

/-- What an operator of repetition makes of the parts before it. It needs one to repeat. -/
def repeatLast? (parts : List Regex) : Option (List Regex) :=
  match parts.getLast? with
  | none | some (.flags _) => none
  | some last => some (parts.dropLast ++ [.repeated last])

def atom? (verbose : Bool) : Text → Option (Regex × Text)
  | [] => none
  | '\\' :: rest => escape? verbose rest
  | c :: rest =>
    if c = '.' then some (.dot, rest)
    else if c = '^' || c = '$' then some (.anchor, rest)
    else some (.literal ⟨c, false⟩, rest)

/-- A group whose closing parenthesis was not read yet: its flags, and what stands before it in the
group around it. -/
structure OpenGroup where
  flags : Flags
  verbose : Bool
  choices : List Regex
  parts : List Regex

/-- Reads the rest of a regular expression, in at most `fuel` parts. `names` holds the names of the
groups so far, `enclosing` the open groups, and `choices` and `parts` what was read in the innermost
of these. -/
def rest? (names : List Text) (verbose : Bool) (enclosing : List OpenGroup)
    (choices parts : List Regex) : Nat → Text → Option Regex
  | 0, _ => none
  | fuel + 1, text =>
    match remaining verbose text with
    | [] => if enclosing.isEmpty then some (ofChoices choices parts) else none
    | '(' :: rest => do
      match ← opening? (remaining verbose rest) with
      | (.flags fs, rest) =>
        rest? names (verboseAfter verbose fs) enclosing choices (parts ++ [.flags fs]) fuel rest
      | (.group fs name, rest) =>
        if name.any names.contains then none
        else
          let opened := ⟨fs, verbose, choices, parts⟩
          rest? (name.toList ++ names) (verboseAfter verbose fs) (opened :: enclosing) [] [] fuel
            rest
    | ')' :: rest =>
      match enclosing with
      | [] => none
      | outer :: enclosing =>
        let closed := .group outer.flags (ofChoices choices parts)
        rest? names outer.verbose enclosing outer.choices (outer.parts ++ [closed]) fuel rest
    | '|' :: rest => rest? names verbose enclosing (choices ++ [ofParts parts]) [] fuel rest
    | '[' :: rest => do
      let (found, rest) ← class? verbose rest
      rest? names verbose enclosing choices (parts ++ [found]) fuel rest
    | c :: rest => do
      if c = '{' then none
      else if c = '*' || c = '+' || c = '?' then
        let parts ← repeatLast? parts
        rest? names verbose enclosing choices parts fuel ((Text.skip? ['?'] rest).getD rest)
      else
        let (found, rest) ← atom? verbose (c :: rest)
        rest? names verbose enclosing choices (parts ++ [found]) fuel rest

def parse? (text : Text) : Option Regex :=
  rest? [] false [] [] [] (text.length + 1) text

end Interpolation.Regex
