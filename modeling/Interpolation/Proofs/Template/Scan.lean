import Interpolation.Span.Scan
import Interpolation.Template.Parse
import Interpolation.Proofs.Template.Spans

/-!
Scanning finds the placeholders of the template that a text is read as.
-/
namespace Interpolation

open Text

/-- A `$` matters to the scanner only in front of a `{`. -/
private theorem scanFrom_armed (text : Text) (offset : Nat) (pending : List Nat) {rest : Text}
    (h : ∀ tail, rest ≠ '{' :: tail) :
    scanFrom text offset true pending rest = scanFrom text offset false pending rest := by
  cases rest with
  | nil => rfl
  | cons c tail =>
    by_cases hd : c = '$'
    · subst hd
      simp only [scanFrom]
    by_cases hc : c = '}'
    · subst hc
      cases pending <;> rfl
    have ho : c ≠ '{' := fun ho => h tail (ho ▸ rfl)
    rw [scanFrom, scanFrom] <;> assumption

/-- An ordinary character moves the scanner on by its bytes. -/
private theorem scanFrom_cons (text : Text) (offset : Nat) (pending : List Nat) {c : Char}
    {rest : Text}
    (hopen : ∀ tail, c = '$' → rest ≠ '{' :: tail) (hclose : c ≠ '}') :
    scanFrom text offset false pending (c :: rest) =
      scanFrom text (offset + c.utf8Size) false pending rest := by
  by_cases hd : c = '$'
  · subst hd
    exact scanFrom_armed text (offset + 1) pending fun tail => hopen tail rfl
  by_cases ho : c = '{'
  · subst ho
    simp [scanFrom]
  simp only [scanFrom]

namespace Template

/-- The offsets of the opening braces of the open placeholders, innermost first. -/
def openings : List Template → List Nat
  | [] => []
  | before :: enclosing =>
    (byteLength (enclosingText enclosing ++ before.text) + 1) :: openings enclosing

/-- The spans of the placeholders in front of what the innermost open one holds. -/
def enclosingSpans : List Template → List Span
  | [] => []
  | before :: enclosing =>
    enclosingSpans enclosing ++ before.spansFrom (byteLength (enclosingText enclosing))

private theorem spans_unclosed (enclosing : List Template) (current : Template) :
    (unclosed enclosing current).spans =
      enclosingSpans enclosing ++ current.spansFrom (byteLength (enclosingText enclosing)) := by
  induction enclosing generalizing current with
  | nil => rfl
  | cons before enclosing ih =>
    have := ih (before ++ literal '$' (literal '{' current))
    simp_all [unclosed, enclosingSpans, enclosingText, spansFrom_append, spansFrom, Nat.add_assoc]

/-- From any point of a text, the scanner adds to the spans already found what the reader will have
read. -/
theorem spans_parseFrom {text : Text} (enclosing : List Template) (current : Template)
    (rest : Text) (h : enclosingText enclosing ++ current.text ++ rest = text) :
    (parseFrom enclosing current rest).spans =
      enclosingSpans enclosing ++ current.spansFrom (byteLength (enclosingText enclosing)) ++
        scanFrom text (byteLength (enclosingText enclosing ++ current.text)) false
          (openings enclosing) rest := by
  fun_induction parseFrom enclosing current rest with
  | case1 enclosing current => simp [spans_unclosed, scanFrom]
  | case2 enclosing current rest ih =>
    rw [ih (by simpa [enclosingText, Template.text] using h)]
    simp [enclosingSpans, enclosingText, openings, spansFrom, scanFrom, Template.text,
      Nat.add_assoc]
  | case3 current rest ih =>
    rw [ih (by simpa [enclosingText, Template.text] using h)]
    simp [enclosingSpans, enclosingText, openings, spansFrom, scanFrom, Template.text,
      spansFrom_append]
  | case4 current rest before enclosing ih =>
    -- The offsets that the scanner remembers delimit just what the reader has collected.
    have hcontent : text.slice? (byteLength (enclosingText enclosing ++ before.text) + 1 + 1)
        (byteLength (enclosingText (before :: enclosing) ++ current.text)) =
          some current.text := by
      refine slice?_eq_some_iff.2
        ⟨enclosingText (before :: enclosing), '}' :: rest, h, ?_, rfl⟩
      simp [enclosingText, Nat.add_assoc]
    rw [ih (by simpa [enclosingText, Template.text] using h)]
    simp only [scanFrom, openings, hcontent]
    simp [enclosingSpans, enclosingText, spansFrom, Template.text, spansFrom_append,
      Nat.add_assoc]
    omega
  | case5 enclosing current c rest hopen hclose ih =>
    rw [ih (by simpa [Template.text] using h),
      scanFrom_cons _ _ _ (fun tail hc hrest => hopen tail hc hrest) hclose]
    simp [spansFrom, Template.text, spansFrom_append, Nat.add_assoc]

/-- The scanner finds the placeholders of the template that a text is. -/
theorem spans_parse (text : Text) : (parse text).spans = scan text := by
  have htext : enclosingText [] ++ empty.text ++ text = text := rfl
  have hspans := spans_parseFrom [] empty text htext
  simpa [parse, scan, enclosingText, enclosingSpans, openings, spansFrom, Template.text]
    using hspans

end Template

end Interpolation
