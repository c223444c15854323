import Interpolation.Proofs.Resolution.Evaluation
import Interpolation.Proofs.Resolution.Safety
import Interpolation.Proofs.Template.Padding

/-!
What becomes of a resolution when texts are joined, and when blank characters are put in.
-/
namespace Interpolation

open Text Template

/-- What a template comes to in each of the modes. -/
def Template.render (bindings : List Binding) : Mode → Template → Resolution
  | .keepUnmatched, t => t.evaluate bindings .keep
  | .deleteUnmatched, t => t.evaluate bindings .delete
  | .optimization, t => .best (t.evaluate bindings .keep) (t.evaluate bindings .delete)

theorem Store.eq_render_of_render? {store : Store} {text : Text} {mode : Mode} {r : Resolution}
    (hr : store.render? text mode = some r) : r = (parse text).render store.bindings mode := by
  cases mode with
  | keepUnmatched => exact eq_evaluate_of_resolve? hr
  | deleteUnmatched => exact eq_evaluate_of_resolve? hr
  | optimization =>
    obtain ⟨keep, hkeep, hr⟩ := Option.bind_eq_some_iff.1 hr
    obtain ⟨delete, hdelete, hr⟩ := Option.bind_eq_some_iff.1 hr
    obtain rfl := Option.some.inj hr
    rw [eq_evaluate_of_resolve? hkeep, eq_evaluate_of_resolve? hdelete, Template.render]

/-- Two texts one after the other are resolved apart, as long as their seam makes no opening, and
none that stays unclosed in the first can meet a stray closing brace in the second. -/
theorem resolve?_append (a b : Text) (bindings : List Binding) (policy : Policy)
    (hseam : ¬ SplitsOpening a b)
    (hbraces : (∀ offset, ¬ a.UnclosedAt offset) ∨ ∀ offset, ¬ b.StrayAt offset) :
    ((Run.start a (order (scan a))).Fits bindings policy →
      (Run.start b (order (scan b))).Fits bindings policy →
      (Run.start (a ++ b) (order (scan (a ++ b)))).Fits bindings policy →
      ∃ ra rb, resolve? a bindings policy = some ra ∧ resolve? b bindings policy = some rb ∧
        resolve? (a ++ b) bindings policy =
          some ⟨ra.output ++ rb.output, ra.replaced + rb.replaced⟩) ∧
    ∀ ra rb r, resolve? a bindings policy = some ra → resolve? b bindings policy = some rb →
      resolve? (a ++ b) bindings policy = some r →
        r = ⟨ra.output ++ rb.output, ra.replaced + rb.replaced⟩ := by
  have happend : (parse (a ++ b)).evaluate bindings policy =
      ⟨((parse a).evaluate bindings policy).output ++ ((parse b).evaluate bindings policy).output,
        ((parse a).evaluate bindings policy).replaced +
          ((parse b).evaluate bindings policy).replaced⟩ := by
    rw [parse_append hseam hbraces, evaluate_append]
  constructor
  · intro ha hb hab
    refine ⟨_, _, resolve?_of_fits ha, resolve?_of_fits hb, ?_⟩
    rw [resolve?_of_fits hab, happend]
  · intro ra rb r ha hb hab
    rw [eq_evaluate_of_resolve? hab, eq_evaluate_of_resolve? ha, eq_evaluate_of_resolve? hb,
      happend]

/-- An opening of the first text that stays unclosed stands in front of placeholders of either text,
and the second one's is resolved between those of the first. -/
theorem resolve?_append_unclosed :
    let a : Text := ['$', '{', 'é', '$', '{', 'k', '}', '$', '{', 'a', 'b', '}']
    let b : Text := ['$', '{', 'c', '}', '$']
    let bindings : List Binding :=
      [⟨['a', 'b'], ['→', '}'], .sensitive⟩, ⟨['c'], ['$'], .sensitive⟩]
    ∃ ra rb, resolve? a bindings .delete = some ra ∧ resolve? b bindings .delete = some rb ∧
      resolve? (a ++ b) bindings .delete =
        some ⟨ra.output ++ rb.output, ra.replaced + rb.replaced⟩ := by
  intro a b bindings
  have hstray : ∀ offset, ¬ b.StrayAt offset := by
    rintro offset ⟨⟨before, after, hb, rfl⟩, hstray⟩
    rcases before with _ | ⟨_, _ | ⟨_, _ | ⟨_, _ | ⟨_, _ | ⟨_, _⟩⟩⟩⟩⟩ <;> simp [b] at hb
    obtain ⟨rfl, rfl, rfl, -⟩ := hb
    exact hstray ⟨1, 3, ['c']⟩ (by decide) rfl
  have ha : order (scan a) = [⟨5, 7, ['k']⟩, ⟨9, 12, ['a', 'b']⟩] :=
    order_eq_of_perm (by decide) (by decide) (by decide)
  have hb : order (scan b) = [⟨1, 3, ['c']⟩] :=
    order_eq_of_perm (by decide) (by decide) (by decide)
  have hab : order (scan (a ++ b)) =
      [⟨5, 7, ['k']⟩, ⟨14, 16, ['c']⟩, ⟨9, 12, ['a', 'b']⟩] :=
    order_eq_of_perm (by decide) (by decide) (by decide)
  refine (resolve?_append a b bindings .delete (by decide) (.inr hstray)).1 ?_ ?_ ?_
  · rw [ha]
    exact ⟨by decide, by decide⟩
  · rw [hb]
    exact ⟨by decide, by decide⟩
  · rw [hab]
    exact ⟨by decide, by decide⟩

/-- The counts are the same with and without blank characters in placeholders, and so is the policy
that they speak for. -/
private theorem Template.Padded.exists_policy {s t : Template} (h : Padded false s t)
    (bindings : List Binding) (mode : Mode) :
    ∃ policy, s.render bindings mode = s.evaluate bindings policy ∧
      t.render bindings mode = t.evaluate bindings policy := by
  cases mode with
  | keepUnmatched => exact ⟨.keep, rfl, rfl⟩
  | deleteUnmatched => exact ⟨.delete, rfl, rfl⟩
  | optimization =>
    have hkeep := h.replaced_evaluate bindings .keep
    have hdelete := h.replaced_evaluate bindings .delete
    rw [render, render, Resolution.best, Resolution.best, hkeep, hdelete]
    split
    · exact ⟨.delete, rfl, rfl⟩
    · exact ⟨.keep, rfl, rfl⟩

/-- A blank character more in a placeholder, anywhere but between a `$` and a `{`, changes neither
what is replaced nor, blank characters aside, the output; if unmatched placeholders go, it goes with
one of them or gives way to a value. -/
theorem render?_insert_blank (store : Store) (template before after : Text) (offset : Nat)
    (c : Char) (mode : Mode) (hcut : template.splitAt? offset = some (before, after))
    (hinside : ∃ span ∈ scan template, span.start < offset ∧ offset ≤ span.stop)
    (hseam : ¬ SplitsOpening before after) (hblank : isBlank c = true) :
    (store.RenderFits template mode → store.RenderFits (before ++ c :: after) mode →
      (store.render? template mode).isSome ∧ (store.render? (before ++ c :: after) mode).isSome) ∧
    ∀ r r', store.render? template mode = some r →
      store.render? (before ++ c :: after) mode = some r' →
        r'.replaced = r.replaced ∧ (mode = .deleteUnmatched → r'.output = r.output) ∧
          r'.output.squeeze = r.output.squeeze := by
  obtain ⟨rfl, rfl⟩ := splitAt?_eq_some_iff.1 hcut
  have hspan : false = false → ∃ span ∈ (parse (before ++ after)).spansFrom 0,
      span.start < 0 + byteLength before ∧ 0 + byteLength before ≤ span.stop := by
    intro _
    rw [← spans_parse] at hinside
    rwa [Nat.zero_add]
  obtain ⟨t, hpadded, htext, hcanonical⟩ :=
    (canonical_parse (before ++ after)).exists_padded (text_parse _) hseam hblank hspan
  have hparse : parse (before ++ c :: after) = t := by
    rw [← htext, hcanonical.parse_text]
  refine ⟨fun hfits hfits' => ⟨Store.render?_isSome hfits, Store.render?_isSome hfits'⟩,
    fun r r' hr hr' => ?_⟩
  obtain rfl := Store.eq_render_of_render? hr
  obtain rfl := Store.eq_render_of_render? hr'
  obtain ⟨policy, hrender, hrender'⟩ := hpadded.exists_policy store.bindings mode
  rw [hparse]
  refine ⟨?_, ?_, ?_⟩
  · rw [hrender, hrender', hpadded.replaced_evaluate]
  · rintro rfl
    rw [Template.render, Template.render, hpadded.evaluate_delete]
  · rw [hrender, hrender', hpadded.squeeze_evaluate]

/-- Between the dollar signs in front of a nested placeholder, whose value makes the content of the
one around it. -/
theorem render?_insert_blank_nested :
    let template : Text := ['$', '{', 'é', '$', '$', '{', 'a', '}', '}', '$', '{', 'b', '}']
    let padded : Text := ['$', '{', 'é', '$', '\u3000', '$', '{', 'a', '}', '}', '$', '{', 'b', '}']
    let store : Store := ⟨[⟨['A'], ['x', ' '], .insensitive⟩, ⟨['é', '$', 'x'], ['y'], .sensitive⟩]⟩
    ∃ r r', store.render? template .optimization = some r ∧
      store.render? padded .optimization = some r' ∧
        r'.replaced = r.replaced ∧ r'.output.squeeze = r.output.squeeze := by
  intro template padded store
  have horder : order (scan template) = [⟨6, 8, ['a']⟩, ⟨11, 13, ['b']⟩,
      ⟨1, 9, ['é', '$', '$', '{', 'a', '}']⟩] :=
    order_eq_of_perm (by decide) (by decide) (by decide)
  have horder' : order (scan padded) = [⟨9, 11, ['a']⟩, ⟨14, 16, ['b']⟩,
      ⟨1, 12, ['é', '$', '\u3000', '$', '{', 'a', '}']⟩] :=
    order_eq_of_perm (by decide) (by decide) (by decide)
  have hfits : store.RenderFits template .optimization := by
    intro policy _
    rw [horder]
    cases policy <;> exact ⟨by decide, by decide⟩
  have hfits' : store.RenderFits padded .optimization := by
    intro policy _
    rw [horder']
    cases policy <;> exact ⟨by decide, by decide⟩
  obtain ⟨hsome, hsame⟩ := render?_insert_blank store template ['$', '{', 'é', '$']
    ['$', '{', 'a', '}', '}', '$', '{', 'b', '}'] 5 '\u3000' .optimization (by decide) (by decide)
    (by decide) (by decide)
  obtain ⟨hr, hr'⟩ := hsome hfits hfits'
  obtain ⟨r, hr⟩ := Option.isSome_iff_exists.1 hr
  obtain ⟨r', hr'⟩ := Option.isSome_iff_exists.1 hr'
  obtain ⟨hreplaced, -, hsqueeze⟩ := hsame r r' hr hr'
  exact ⟨r, r', hr, hr', hreplaced, hsqueeze⟩

end Interpolation
