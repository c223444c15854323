import Interpolation.Render
import Interpolation.Proofs.Resolution.Run
import Interpolation.Proofs.Span.Nesting

/-!
Resolving a text is evaluating the template that it is, whatever the order of the placeholders, as
long as inner ones come first.
-/
namespace Interpolation

open Template

section

variable {bindings : List Binding} {policy : Policy} {text : Text} {spans : List Span}
  (h : spans.Perm (scan text)) (hinner : Span.InnerFirst spans)

include h hinner

theorem represents_parse : (Run.start text spans).Represents (parse text) :=
  ⟨text_parse text, by rwa [spans_parse], hinner⟩

theorem substitute?_of_fits (hfits : (Run.start text spans).Fits bindings policy) :
    substitute? text spans bindings policy = some ((parse text).evaluate bindings policy) := by
  rcases (represents_parse h hinner).substitute?_eq with hr | ⟨-, hlong⟩
  · exact hr
  · exact absurd hfits hlong

theorem eq_evaluate_of_substitute? {r : Resolution}
    (hr : substitute? text spans bindings policy = some r) :
    r = (parse text).evaluate bindings policy := by
  rcases (represents_parse h hinner).substitute?_eq with hr' | ⟨hnone, -⟩
  · exact Option.some.inj (hr.symm.trans hr')
  · rw [hr] at hnone
    cases hnone

end

theorem resolve?_of_fits {text : Text} {bindings : List Binding} {policy : Policy}
    (hfits : (Run.start text (order (scan text))).Fits bindings policy) :
    resolve? text bindings policy = some ((parse text).evaluate bindings policy) :=
  substitute?_of_fits (order_perm _) (innerFirst_order_scan text) hfits

theorem eq_evaluate_of_resolve? {text : Text} {bindings : List Binding} {policy : Policy}
    {r : Resolution} (hr : resolve? text bindings policy = some r) :
    r = (parse text).evaluate bindings policy :=
  eq_evaluate_of_substitute? (order_perm _) (innerFirst_order_scan text) hr

/-- Resolving in resolution order is evaluating from the inside out: the tree of the placeholders
that the scanner finds, with all other text literal, has the value that the run comes to. -/
theorem substitute?_order_scan (text : Text) (bindings : List Binding) (policy : Policy) :
    (parse text).text = text ∧ (parse text).spans = scan text ∧
      ((Run.start text (order (scan text))).Fits bindings policy →
        substitute? text (order (scan text)) bindings policy =
          some ((parse text).evaluate bindings policy)) ∧
      ∀ r, substitute? text (order (scan text)) bindings policy = some r →
        r = (parse text).evaluate bindings policy :=
  ⟨text_parse text, spans_parse text,
    substitute?_of_fits (order_perm _) (innerFirst_order_scan text),
    fun _ => eq_evaluate_of_substitute? (order_perm _) (innerFirst_order_scan text)⟩

/-- A value that grows, inside a placeholder whose value looks like a placeholder, next to one that
stays. -/
theorem substitute?_order_scan_nested :
    let text : Text := ['$', '{', 'a', '$', '{', 'b', '}', '}', '-', '$', '{', 'c', '}']
    let bindings : List Binding := [⟨['b'], ['x', 'é'], .sensitive⟩,
      ⟨['A', 'x', 'é'], ['$', '{', 'b', '}'], .insensitive⟩]
    substitute? text (order (scan text)) bindings .keep =
      some ⟨['$', '{', 'b', '}', '-', '$', '{', 'c', '}'], 2⟩ := by
  intro text bindings
  have horder : order (scan text) =
      [⟨4, 6, ['b']⟩, ⟨10, 12, ['c']⟩, ⟨1, 7, ['a', '$', '{', 'b', '}']⟩] :=
    order_eq_of_perm (by decide) (by decide) (by decide)
  have hfits : (Run.start text (order (scan text))).Fits bindings .keep := by
    rw [horder]
    exact ⟨by decide, by decide⟩
  rw [(substitute?_order_scan text bindings .keep).2.2.1 hfits]
  decide

/-- Two orders of the placeholders of a text, both inner ones first, give the same resolution. Among
these orders are the one of closing braces, resolution order, and every other by length of
content. -/
theorem substitute?_eq_of_innerFirst (text : Text) (bindings : List Binding) (policy : Policy) :
    (∀ p q : List Span, p.Perm (scan text) → q.Perm (scan text) →
      Span.InnerFirst p → Span.InnerFirst q →
      ((Run.start text p).Fits bindings policy → (Run.start text q).Fits bindings policy →
        ∃ r, substitute? text p bindings policy = some r ∧
          substitute? text q bindings policy = some r) ∧
      ∀ r r', substitute? text p bindings policy = some r →
        substitute? text q bindings policy = some r' → r = r') ∧
    Span.InnerFirst (scan text) ∧
    ((order (scan text)).Perm (scan text) ∧ Span.InnerFirst (order (scan text))) ∧
    ∀ p : List Span, p.Perm (scan text) →
      p.Pairwise (fun a b => a.content.length ≤ b.content.length) → Span.InnerFirst p := by
  refine ⟨fun p q hp hq hpi hqi => ⟨fun hpf hqf => ?_, fun r r' hr hr' => ?_⟩,
    innerFirst_scan text, ⟨order_perm _, innerFirst_order_scan text⟩,
    fun p hp hlength => innerFirst_of_pairwise_length hp hlength⟩
  · exact ⟨_, substitute?_of_fits hp hpi hpf, substitute?_of_fits hq hqi hqf⟩
  · rw [eq_evaluate_of_substitute? hp hpi hr, eq_evaluate_of_substitute? hq hqi hr']

/-- The order of closing braces, and one that takes a cousin in between. -/
theorem substitute?_eq_of_innerFirst_cousins :
    let text : Text := ['$', '{', 'c', '}', '$', '{', '$', '{', 'a', '}', '$', '{', 'b', '}', '}']
    let bindings : List Binding := [⟨['a'], ['b', 'é'], .sensitive⟩, ⟨['c'], [], .sensitive⟩,
      ⟨['b'], ['a'], .sensitive⟩, ⟨['B', 'É', 'a'], ['}'], .insensitive⟩]
    let p := scan text
    let q : List Span := [⟨11, 13, ['b']⟩, ⟨1, 3, ['c']⟩, ⟨7, 9, ['a']⟩,
      ⟨5, 14, ['$', '{', 'a', '}', '$', '{', 'b', '}']⟩]
    ∃ r, substitute? text p bindings .delete = some r ∧
      substitute? text q bindings .delete = some r := by
  intro text bindings p q
  have hp : (Run.start text p).Fits bindings .delete := ⟨by decide, by decide⟩
  have hq : (Run.start text q).Fits bindings .delete := ⟨by decide, by decide⟩
  exact ((substitute?_eq_of_innerFirst text bindings .delete).1 p q (.refl _) (by decide)
    (by decide) (by decide)).1 hp hq

end Interpolation
