import Interpolation.Environment
import Interpolation.Text.Basic

/-!
A directory of files, as far as configuration is looked for in it.
-/
namespace Interpolation

/-- The files under a directory, each with its path from there and its content. -/
structure Directory where
  files : List (String × RawText) := []
  deriving DecidableEq

namespace Directory

def ofTexts (files : List (String × String)) : Directory :=
  ⟨files.map fun (path, content) => (path, .unicode content)⟩

def namesOf (path : String) : List Text :=
  (Text.pieces '/' path.toList).filter fun name => name ≠ [] && name ≠ ['.']

def hasDirectory (d : Directory) (names : List Text) : Bool :=
  d.files.any fun (path, _) =>
    names.isPrefixOf (namesOf path) && names.length < (namesOf path).length

/-- Walks along names from the directory reached by `here`; two points lead back. The way may not
leave the directory. -/
def walk (d : Directory) (here : List Text) : List Text → Option (List Text)
  | [] => some here
  | name :: rest =>
    if name = ['.', '.'] then
      if here ≠ [] && d.hasDirectory here then d.walk here.dropLast rest else none
    else d.walk (here ++ [name]) rest

def read? (d : Directory) (path : String) : Option RawText := do
  let names ← d.walk [] (namesOf path)
  let (_, content) ← d.files.find? fun (path, _) => namesOf path = names
  return content

end Directory

end Interpolation
