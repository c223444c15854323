import Interpolation.Template.Basic

/-!
Reading a text as a template. What belongs to no placeholder is literal.
-/
namespace Interpolation.Template

/-- What was read when the text ends inside placeholders: their openings turn out to be literal.
`enclosing` holds what stands before each of them, innermost first. -/
def unclosed (enclosing : List Template) (current : Template) : Template :=
  enclosing.foldl (fun current before => before ++ literal '$' (literal '{' current)) current

/-- Reads the rest of a text. `current` is what the innermost open placeholder holds so far and
`enclosing` what stands before each open placeholder, innermost first. -/
def parseFrom (enclosing : List Template) (current : Template) : Text → Template
  | [] => unclosed enclosing current
  | '$' :: '{' :: rest => parseFrom (current :: enclosing) empty rest
  | '}' :: rest =>
    match enclosing with
    | [] => parseFrom [] (current ++ literal '}' empty) rest
    | before :: enclosing => parseFrom enclosing (before ++ placeholder current empty) rest
  | c :: rest => parseFrom enclosing (current ++ literal c empty) rest

def parse (text : Text) : Template :=
  parseFrom [] empty text

/-- The text in front of what the innermost open placeholder holds. -/
def enclosingText : List Template → Text
  | [] => []
  | before :: enclosing => enclosingText enclosing ++ before.text ++ ['$', '{']

private theorem text_unclosed (enclosing : List Template) (current : Template) :
    (unclosed enclosing current).text = enclosingText enclosing ++ current.text := by
  induction enclosing generalizing current with
  | nil => rfl
  | cons before enclosing ih =>
    have := ih (before ++ literal '$' (literal '{' current))
    simp_all [unclosed, enclosingText, text]

private theorem text_parseFrom (enclosing : List Template) (current : Template) (rest : Text) :
    (parseFrom enclosing current rest).text =
      enclosingText enclosing ++ current.text ++ rest := by
  fun_induction parseFrom enclosing current rest with
  | case1 enclosing current => simp [text_unclosed]
  | case2 enclosing current rest ih => simp [ih, enclosingText, text]
  | case3 current rest ih => simp [ih, text]
  | case4 current rest before enclosing ih => simp [ih, enclosingText, text]
  | case5 enclosing current c rest _ _ ih => simp [ih, text]

@[simp] theorem text_parse (t : Text) : (parse t).text = t := by
  simp [parse, text_parseFrom, enclosingText, text]

end Interpolation.Template
