import Interpolation.Text.Alphanumeric
import Interpolation.Text.Basic

/-!
Strings and keys of TOML documents, and what may stand around them.
-/
namespace Interpolation.Toml

def isSpace (c : Char) : Bool :=
  c = ' ' || c = '\t'

def skipSpace (text : Text) : Text :=
  text.dropWhile isSpace

/-- Whether `c` may stand in comments and, unless it is special there, in strings. -/
def isPlain (c : Char) : Bool :=
  c = '\t' || (' ' ≤ c && c ≠ '\x7f')

def newline? : Text → Option Text
  | '\n' :: rest => some rest
  | '\r' :: '\n' :: rest => some rest
  | _ => none

/-- Drops a comment, where there is one, up to the end of its line. -/
def skipComment : Text → Text
  | '#' :: rest => rest.dropWhile isPlain
  | text => text

/-- Drops what may follow a statement, through the end of its line. -/
def lineEnd? (text : Text) : Option Text :=
  match skipComment (skipSpace text) with
  | [] => some []
  | rest => newline? rest

/-- Drops blank characters, line ends and comments. -/
def skipLines (inComment : Bool) : Text → Text
  | '\n' :: rest => skipLines false rest
  | '\r' :: '\n' :: rest => skipLines false rest
  | '#' :: rest => skipLines true rest
  | c :: rest =>
    if inComment then (if isPlain c then skipLines true rest else c :: rest)
    else if isSpace c then skipLines false rest
    else c :: rest
  | [] => []

def escaped? : Char → Option Char
  | 'b' => some '\x08'
  | 't' => some '\t'
  | 'n' => some '\n'
  | 'f' => some '\x0c'
  | 'r' => some '\r'
  | '"' => some '"'
  | '\\' => some '\\'
  | _ => none

def basic? : Text → Option (Text × Text)
  | '"' :: rest => some ([], rest)
  | '\\' :: 'u' :: a :: b :: c :: d :: rest => do
    let char ← charOfDigits? [a, b, c, d]
    let (chars, rest) ← basic? rest
    return (char :: chars, rest)
  | '\\' :: 'U' :: a :: b :: c :: d :: e :: f :: g :: h :: rest => do
    let char ← charOfDigits? [a, b, c, d, e, f, g, h]
    let (chars, rest) ← basic? rest
    return (char :: chars, rest)
  | '\\' :: c :: rest => do
    let char ← escaped? c
    let (chars, rest) ← basic? rest
    return (char :: chars, rest)
  | c :: rest =>
    if isPlain c && c ≠ '\\' then (basic? rest).map fun (chars, rest) => (c :: chars, rest)
    else none
  | [] => none

def literal? : Text → Option (Text × Text)
  | '\'' :: rest => some ([], rest)
  | c :: rest =>
    if isPlain c then (literal? rest).map fun (chars, rest) => (c :: chars, rest) else none
  | [] => none

/-- Up to two quotes at the front, which right before the closing three belong to the string. -/
def closingQuotes (quote : Char) (text : Text) : Text × Text :=
  let quotes := (text.take 2).takeWhile (· = quote)
  (quotes, text.drop quotes.length)

/-- Whether a backslash in front of `text` ends the line and joins it to the next word. -/
def joinsLines (text : Text) : Bool :=
  (newline? (skipSpace text)).isSome

/-- Reads a basic string of several lines from after its opening quotes on. `joining` tells that
blank characters and line ends are passed over. -/
def basicLines? (joining : Bool) : Text → Option (Text × Text)
  | '"' :: '"' :: '"' :: rest => some (closingQuotes '"' rest)
  | '\r' :: '\n' :: rest =>
    if joining then basicLines? true rest
    else (basicLines? false rest).map fun (chars, rest) => ('\n' :: chars, rest)
  | '\\' :: 'u' :: a :: b :: c :: d :: rest => do
    let char ← charOfDigits? [a, b, c, d]
    let (chars, rest) ← basicLines? false rest
    return (char :: chars, rest)
  | '\\' :: 'U' :: a :: b :: c :: d :: e :: f :: g :: h :: rest => do
    let char ← charOfDigits? [a, b, c, d, e, f, g, h]
    let (chars, rest) ← basicLines? false rest
    return (char :: chars, rest)
  | '\\' :: c :: rest =>
    if joinsLines (c :: rest) then basicLines? true (c :: rest)
    else do
      let char ← escaped? c
      let (chars, rest) ← basicLines? false rest
      return (char :: chars, rest)
  | c :: rest =>
    if joining && (isSpace c || c = '\n') then basicLines? true rest
    else if (isPlain c || c = '\n') && c ≠ '\\' then
      (basicLines? false rest).map fun (chars, rest) => (c :: chars, rest)
    else none
  | [] => none

def literalLines? : Text → Option (Text × Text)
  | '\'' :: '\'' :: '\'' :: rest => some (closingQuotes '\'' rest)
  | '\r' :: '\n' :: rest => (literalLines? rest).map fun (chars, rest) => ('\n' :: chars, rest)
  | c :: rest =>
    if isPlain c || c = '\n' then
      (literalLines? rest).map fun (chars, rest) => (c :: chars, rest)
    else none
  | [] => none

/-- Reads a string of any form. A line end right after three opening quotes does not count. -/
def string? : Text → Option (Text × Text)
  | '"' :: '"' :: '"' :: rest => basicLines? false ((newline? rest).getD rest)
  | '\'' :: '\'' :: '\'' :: rest => literalLines? ((newline? rest).getD rest)
  | '"' :: rest => basic? rest
  | '\'' :: rest => literal? rest
  | _ => none

def isKeyChar (c : Char) : Bool :=
  isAsciiAlphanumeric c || c = '-' || c = '_'

def keyPart? : Text → Option (String × Text)
  | '"' :: rest => (basic? rest).map fun (chars, rest) => (String.ofList chars, rest)
  | '\'' :: rest => (literal? rest).map fun (chars, rest) => (String.ofList chars, rest)
  | text =>
    let name := text.takeWhile isKeyChar
    if name = [] then none else some (String.ofList name, text.drop name.length)

/-- The parts of a key joined by points, at most `fuel` of them, with the blank characters around
them. The last part comes apart from those before it. -/
def key? : Nat → Text → Option ((List String × String) × Text)
  | 0, _ => none
  | fuel + 1, text => do
    let (part, rest) ← keyPart? (skipSpace text)
    match skipSpace rest with
    | '.' :: rest =>
      let ((path, last), rest) ← key? fuel rest
      return ((part :: path, last), rest)
    | rest => return (([], part), rest)

def maxKeyParts : Nat := 79

end Interpolation.Toml
