import Interpolation.Environment
import Interpolation.Text.Alphanumeric
import Interpolation.Text.Blank

/-!
Files of environment variables. A variable that is set already keeps its value, and a null
character cannot be set.
-/
namespace Interpolation.DotEnv

/-! ## Lines -/

inductive Quoting
  | bare
  | blank
  | escape
  | strong
  | strongEscape
  | weak
  | weakEscape
  | comment
  deriving DecidableEq, Repr

def Quoting.outside (c : Char) : Quoting :=
  if c = '\\' then .escape else if c = '"' then .weak else if c = '\'' then .strong else .bare

/-- What the next character makes of a line. A `#` begins a comment after a single blank
character. -/
def Quoting.next (c : Char) : Quoting → Quoting
  | .bare => if isBlank c && c ≠ '\n' && c ≠ '\r' then .blank else outside c
  | .blank => if c = '#' then .comment else outside c
  | .escape => .bare
  | .strong => if c = '\\' then .strongEscape else if c = '\'' then .bare else .strong
  | .strongEscape => .strong
  | .weak => if c = '\\' then .weakEscape else if c = '"' then .bare else .weak
  | .weakEscape => .weak
  | .comment => .comment

/-- Follows a line up to its end or to a comment, and gives what stands before that. -/
def follow (quoting : Quoting) : Text → Text × Quoting
  | [] => ([], quoting)
  | c :: rest =>
    match quoting.next c with
    | .comment => ([], .comment)
    | next =>
      let (kept, last) := follow next rest
      (c :: kept, last)

def physicalLines : Text → List Text
  | [] => []
  | c :: rest =>
    if c = '\n' then [c] :: physicalLines rest
    else match physicalLines rest with
      | [] => [[c]]
      | line :: lines => (c :: line) :: lines

def dropLineEnd (line : Text) : Text :=
  match line.reverse with
  | '\n' :: '\r' :: rest => rest.reverse
  | '\n' :: rest => rest.reverse
  | _ => line

/-- Joins lines while a quote is open. A line that the end of the file leaves open is faulty
(`none`). -/
def logicalLines (pending : Text) (quoting : Quoting) : List Text → List (Option Text)
  | [] => if quoting = .bare then [] else [none]
  | line :: lines =>
    let joined := pending ++ line
    if (Text.dropBlanks joined).head? = some '#' then logicalLines [] .bare lines
    else
      match follow quoting line with
      | (_, .bare) => some (dropLineEnd joined) :: logicalLines [] .bare lines
      | (kept, .comment) => some (pending ++ kept) :: logicalLines [] .bare lines
      | (_, quoting) => logicalLines joined quoting lines

/-! ## Values -/

/-- What a value is being read as: text, the character after a backslash, a strong quote, the name
of a variable (in braces or not, with what there is of it so far), or what may follow the value. -/
inductive Reading
  | text
  | escaped
  | strong
  | reference (inBraces : Bool) (name : Text)
  | trailing
  deriving DecidableEq, Repr

def escaped? (c : Char) : Option Char :=
  if c = 'n' then some '\n'
  else if c = '\\' || c = '\'' || c = '"' || c = '$' || c = ' ' then some c
  else none

/-- Reads a value to its end. `valueOf` gives the values of variables, and `weak` tells that a weak
quote is open. -/
def value? (valueOf : Text → Text) (weak : Bool) : Reading → Text → Option Text
  | .strong, [] | .reference true _, [] => none
  | .reference false name, [] => if weak then none else some (valueOf name)
  | _, [] => if weak then none else some []
  | .trailing, c :: rest =>
    if c = ' ' || c = '\t' then value? valueOf weak .trailing rest
    else if c = '#' then some []
    else none
  | .escaped, c :: rest => do
    let char ← escaped? c
    return char :: (← value? valueOf weak .text rest)
  | .strong, c :: rest =>
    if c = '\'' then value? valueOf weak .text rest
    else (value? valueOf weak .strong rest).map (c :: ·)
  | .reference inBraces name, c :: rest =>
    if isAlphanumeric c then value? valueOf weak (.reference inBraces (name ++ [c])) rest
    else if inBraces then
      if c = '}' then (value? valueOf weak .text rest).map (valueOf name ++ ·)
      else value? valueOf weak (.reference true (name ++ [c])) rest
    else if c = '{' && name = [] then value? valueOf weak (.reference true []) rest
    else if c = '$' then
      (value? valueOf weak (.reference false []) rest).map (valueOf name ++ ·)
    else (value? valueOf weak .text rest).map (valueOf name ++ c :: ·)
  | .text, c :: rest =>
    if c = '$' then value? valueOf weak (.reference false []) rest
    else if c = '\\' then value? valueOf weak .escaped rest
    else if c = '"' then value? valueOf (!weak) .text rest
    else if weak then (value? valueOf weak .text rest).map (c :: ·)
    else if c = '\'' then value? valueOf weak .strong rest
    else if c = ' ' || c = '\t' then value? valueOf weak .trailing rest
    else (value? valueOf weak .text rest).map (c :: ·)

/-! ## Assignments -/

def name? : Text → Option (Text × Text)
  | [] => none
  | c :: rest =>
    if isAsciiLetter c || c = '_' then
      let more := rest.takeWhile fun c => isAsciiAlphanumeric c || c = '_' || c = '.'
      some (c :: more, rest.drop more.length)
    else none

/-- Reads a name and the sign after it. The word `export` may stand in front. -/
def assigned? (line : Text) : Option (Text × Text) := do
  let (name, rest) ← name? line
  match Text.dropBlanks rest with
  | '=' :: rest => return (name, rest)
  | rest =>
    if name = "export".toList then
      let (name, rest) ← name? rest
      let rest ← Text.skip? ['='] (Text.dropBlanks rest)
      return (name, rest)
    else none

abbrev Known := List (Text × Text)

/-- What follows `name=` in an assignment `NAME=value` of the environment. A name with an equals
sign goes on into the value of the variable that its first part names. -/
def given? (environment : Environment) (name : Text) : Option Text :=
  environment.entries.findSome? fun (key, value) => do
    Text.skip? (name ++ ['=']) ((← key.text?).toList ++ '=' :: (← value.text?).toList)

/-- The value of a variable: that of the environment, or else the one that the file gave it last. -/
def valueOf (environment : Environment) (known : Known) (name : Text) : Text :=
  (given? environment name).getD ((known.lookup name).getD [])

def assignment? (valueOf : Text → Text) (line : Text) : Option (Option (Text × Text)) :=
  match Text.dropBlanks (Text.dropTrailingBlanks line) with
  | [] | '#' :: _ => some none
  | line => do
    let (name, rest) ← assigned? line
    match Text.dropBlanks rest with
    | [] | '#' :: _ => return some (name, [])
    | rest => return some (name, ← value? valueOf false .text rest)

/-- The environment after the lines of a file, none where a value cannot be set. -/
def load? (environment : Environment) (known : Known) : List (Option Text) → Option Environment
  | [] | none :: _ => some environment
  | some line :: lines =>
    match assignment? (valueOf environment known) line with
    | none => some environment
    | some none => load? environment known lines
    | some (some (name, value)) =>
      let key := String.ofList name
      let known := (name, value) :: known
      if (environment.var? key).isSome then load? environment known lines
      else if '\x00' ∈ value then none
      else load? (environment.set (.unicode key) (.unicode (String.ofList value))) known lines

/-- The environment after a file of variables. A byte order mark may stand in front. -/
def loadFile? (environment : Environment) (file : Text) : Option Environment :=
  load? environment [] (logicalLines [] .bare (physicalLines file.dropMark))

end Interpolation.DotEnv
