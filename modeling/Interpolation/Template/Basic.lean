import Interpolation.Span.Basic

/-!
Templates as trees: literal characters, and placeholders whose bodies are templates again.
-/
namespace Interpolation

/-- A template, from its first character or placeholder on. -/
inductive Template
  | empty
  | literal (c : Char) (rest : Template)
  | placeholder (body rest : Template)
  deriving DecidableEq, Repr

namespace Template

def append : Template → Template → Template
  | empty, next => next
  | literal c rest, next => literal c (rest.append next)
  | placeholder body rest, next => placeholder body (rest.append next)

instance : Append Template :=
  ⟨append⟩

@[simp] theorem empty_append (t : Template) : empty ++ t = t := rfl

@[simp] theorem literal_append (c : Char) (s t : Template) :
    literal c s ++ t = literal c (s ++ t) := rfl

@[simp] theorem placeholder_append (b s t : Template) :
    placeholder b s ++ t = placeholder b (s ++ t) := rfl

@[simp] theorem append_empty (t : Template) : t ++ empty = t := by
  induction t with
  | empty => rfl
  | literal c rest ih => simp [ih]
  | placeholder body rest _ ih => simp [ih]

theorem append_assoc (s t u : Template) : s ++ t ++ u = s ++ (t ++ u) := by
  induction s with
  | empty => rfl
  | literal c rest ih => simp [ih]
  | placeholder body rest _ ih => simp [ih]

def text : Template → Text
  | empty => []
  | literal c rest => c :: rest.text
  | placeholder body rest => '$' :: '{' :: body.text ++ '}' :: rest.text

@[simp] theorem text_append (s t : Template) : (s ++ t).text = s.text ++ t.text := by
  induction s with
  | empty => rfl
  | literal c rest ih => simp [text, ih]
  | placeholder body rest _ ih => simp [text, ih]

/-- The spans of the placeholders of a template whose text begins at a byte offset, each after those
inside it. -/
def spansFrom (offset : Nat) : Template → List Span
  | empty => []
  | literal c rest => rest.spansFrom (offset + c.utf8Size)
  | placeholder body rest =>
    let stop := offset + 2 + body.text.byteLength
    body.spansFrom (offset + 2) ++ ⟨offset + 1, stop, body.text⟩ :: rest.spansFrom (stop + 1)

/-- The spans of the placeholders of a template. -/
def spans (t : Template) : List Span :=
  t.spansFrom 0

end Template

end Interpolation
