import Interpolation.Proofs.Resolution.Turns

/-!
Keeping against deleting: where the outputs differ, and where the counts do.
-/
namespace Interpolation

open Template

section

variable {bindings : List Binding} {content : Text}

private theorem Template.fill_of_accepts (h : (firstAccepting bindings content).isSome)
    (policy policy' : Policy) : fill bindings policy' content = fill bindings policy content := by
  obtain ⟨b, hb⟩ := Option.isSome_iff_exists.1 h
  unfold fill
  rw [hb]

private theorem Template.replaced_fill (bindings : List Binding) (policy : Policy)
    (content : Text) : (fill bindings policy content).replaced = hits bindings content := by
  unfold fill hits
  cases firstAccepting bindings content with
  | some b => rfl
  | none => cases policy <;> rfl

end

/-- A placeholder that settles with the keeping policy counts the same with the deleting one, if it
is accepted or has no other around it. -/
private theorem Template.Settles.replaced_delete {bindings : List Binding} {span : Span}
    {t t' : Template} (h : Settles (fill bindings .keep span.content).output span 0 t t')
    (hnested : (∃ w ∈ t.spans, w.Encloses span) →
      (firstAccepting bindings span.content).isSome) :
    (t.evaluate bindings .delete).replaced =
      (fill bindings .keep span.content).replaced + (t'.evaluate bindings .delete).replaced := by
  by_cases haccepts : (firstAccepting bindings span.content).isSome
  · rw [Template.fill_of_accepts haccepts .delete .keep] at h ⊢
    rw [h.evaluate]
  · have houter : ∀ w ∈ t.spans, ¬ w.Encloses span :=
      fun w hw hencloses => haccepts (hnested ⟨w, hw, hencloses⟩)
    rw [h.replaced_of_outermost houter, replaced_fill, replaced_fill]

/-- If the keeping run accepts every placeholder that has another around it, deleting counts the
same. -/
private theorem Run.Represents.replaced_eq {bindings : List Binding} {run last : Run} {t : Template}
    (h : run.Represents t)
    (hlast : steps? bindings .keep run.waiting.length run = some last)
    (hnested : ∀ k next span waiting, steps? bindings .keep k run = some next →
      next.waiting = span :: waiting → (∃ w ∈ waiting, w.Encloses span) →
        (firstAccepting bindings span.content).isSome) :
    (t.evaluate bindings .delete).replaced = (t.evaluate bindings .keep).replaced := by
  generalize hn : run.waiting.length = n at hlast
  induction n generalizing run t with
  | zero =>
    have hspans : t.spansFrom 0 = [] :=
      (h.waiting.symm.trans (.of_eq (List.length_eq_zero_iff.1 hn))).eq_nil
    rw [evaluate_of_spansFrom_eq_nil hspans, evaluate_of_spansFrom_eq_nil hspans]
  | succ n ih =>
    obtain ⟨span, waiting, hw⟩ := List.exists_cons_of_length_eq_add_one hn
    obtain ⟨next, hstep, hlast⟩ := Option.bind_eq_some_iff.1 hlast
    obtain ⟨t', hnext, hsettles, hsame⟩ := h.settles_of_step? hw hstep
    have hspan : (∃ w ∈ t.spans, w.Encloses span) →
        (firstAccepting bindings span.content).isSome := by
      rintro ⟨w, hmem, hencloses⟩
      rcases h.eq_or_mem_waiting hw hmem with rfl | hmem'
      · exact absurd hencloses.1 (Nat.lt_irrefl _)
      · exact hnested 0 run span waiting rfl hw ⟨w, hmem', hencloses⟩
    have hlength : next.waiting.length = n := by
      rw [hw, List.length_cons, ← hsame.1] at hn
      exact Nat.succ.inj hn
    have hafter : ∀ k later span waiting, steps? bindings .keep k next = some later →
        later.waiting = span :: waiting → (∃ w ∈ waiting, w.Encloses span) →
          (firstAccepting bindings span.content).isSome := by
      intro k later span waiting hlater
      refine hnested (k + 1) later span waiting ?_
      rw [steps?, hstep]
      exact hlater
    have hrest := ih hnext hafter hlength hlast
    rw [hsettles.replaced_delete hspan, hsettles.evaluate, hrest]

/-- The spans around one that waits for its turn are those that were around it in the text. -/
private theorem Run.exists_encloses_of_steps? {bindings : List Binding} {policy : Policy}
    {text : Text} {spans : List Span} {k : Nat} {run : Run} {span w : Span} {waiting : List Span}
    (h : spans.Perm (scan text)) (hinner : Span.InnerFirst spans)
    (hrun : steps? bindings policy k (start text spans) = some run)
    (hw : run.waiting = span :: waiting) (hmem : w ∈ waiting) (hencloses : w.Encloses span) :
    ∃ found, spans[k]? = some found ∧ ∃ outer ∈ scan text, outer.Encloses found := by
  obtain ⟨t, hreached⟩ := reached_of_steps? (represents_parse h hinner) hrun
  have harrangement := hreached.arrangement
  cases hdrop : spans.drop k with
  | nil =>
    rw [hw, hdrop] at harrangement
    cases harrangement.1
  | cons found later =>
    rw [hw, hdrop] at harrangement
    obtain ⟨outer, houter, hencloses'⟩ := harrangement.exists_encloses_head hmem hencloses
    refine ⟨found, ?_, outer, ?_, hencloses'⟩
    · rw [← Nat.add_zero k, ← List.getElem?_drop, hdrop]
      rfl
    · have hsub : outer ∈ spans.drop k := hdrop ▸ List.mem_cons_of_mem found houter
      exact h.mem_iff.1 (List.mem_of_mem_drop hsub)

/-- The keeping run accepts those placeholders at their turn that `p` holds of where the scanner
finds them. -/
def Store.AcceptsWhere (store : Store) (template : Text) (p : Span → Prop) : Prop :=
  ∀ k span, (order (scan template))[k]? = some span → p span →
    Run.AcceptsAt store.bindings .keep template (order (scan template)) k

/-- Another placeholder of the text is around the span. -/
def Span.NestedIn (template : Text) (span : Span) : Prop :=
  ∃ outer ∈ scan template, outer.Encloses span

instance (template : Text) (span : Span) : Decidable (span.NestedIn template) :=
  inferInstanceAs (Decidable (∃ outer ∈ scan template, _))

theorem resolve?_of_acceptsAt {bindings : List Binding} {policy : Policy} {text : Text}
    (h : ∀ k, Run.AcceptsAt bindings policy text (order (scan text)) k) (policy' : Policy) :
    resolve? text bindings policy' = resolve? text bindings policy := by
  unfold resolve? substitute?
  rw [Run.steps?_of_acceptsAt h policy']

private theorem Resolution.best_of_le {keep delete : Resolution}
    (h : delete.replaced ≤ keep.replaced) : Resolution.best keep delete = keep := by
  unfold best
  rw [if_neg (Nat.not_lt.2 h)]

section

variable {store : Store} {template : Text}

theorem Store.render?_of_acceptsAt
    (h : ∀ k, Run.AcceptsAt store.bindings .keep template (order (scan template)) k) (mode : Mode) :
    store.render? template mode = store.render? template .keepUnmatched := by
  have hdelete := resolve?_of_acceptsAt h .delete
  cases mode with
  | keepUnmatched => rfl
  | deleteUnmatched => exact hdelete
  | optimization =>
    unfold render?
    rw [hdelete]
    cases resolve? template store.bindings .keep with
    | none => rfl
    | some keep => exact congrArg some (Resolution.best_of_le (Nat.le_refl _))

private theorem Store.AcceptsWhere.acceptsAt
    (hnested : store.AcceptsWhere template (·.NestedIn template))
    (houter : store.AcceptsWhere template (¬ ·.NestedIn template)) (k : Nat) :
    Run.AcceptsAt store.bindings .keep template (order (scan template)) k := by
  cases hk : (order (scan template))[k]? with
  | none =>
    intro content hcontent
    rw [Run.turn?_eq_none (order_perm _) (innerFirst_order_scan template)
      (List.getElem?_eq_none_iff.1 hk)] at hcontent
    cases hcontent
  | some span =>
    by_cases hspan : span.NestedIn template
    · exact hnested k span hk hspan
    · exact houter k span hk hspan

private theorem Store.AcceptsWhere.replaced_eq
    (hnested : store.AcceptsWhere template (·.NestedIn template)) {keep delete : Resolution}
    (hkeep : resolve? template store.bindings .keep = some keep)
    (hdelete : resolve? template store.bindings .delete = some delete) :
    delete.replaced = keep.replaced := by
  have hstart := represents_parse (order_perm (scan template)) (innerFirst_order_scan template)
  obtain ⟨last, hlast, -⟩ := Option.map_eq_some_iff.1 hkeep
  rw [eq_evaluate_of_resolve? hkeep, eq_evaluate_of_resolve? hdelete]
  refine hstart.replaced_eq hlast fun k next span waiting hnext hw hencloses => ?_
  obtain ⟨w, hmem, hencloses⟩ := hencloses
  obtain ⟨found, hfound, houter⟩ := Run.exists_encloses_of_steps? (order_perm _)
    (innerFirst_order_scan template) hnext hw hmem hencloses
  exact hnested k found hfound houter span.content (Run.turn?_of_steps? hnext hw)

end

/-- Keeping and deleting replace different numbers of placeholders only where one inside another is
not accepted. If those inside others all are, optimization keeps; if the others are too, the mode
does not matter. -/
theorem render?_of_nested_accepted (store : Store) (template : Text) :
    ((∀ a ∈ scan template, ∀ b ∈ scan template, ¬ a.Encloses b) →
      store.AcceptsWhere template (·.NestedIn template)) ∧
    (store.AcceptsWhere template (·.NestedIn template) →
      (∀ keep delete, store.render? template .keepUnmatched = some keep →
        store.render? template .deleteUnmatched = some delete →
          delete.replaced = keep.replaced ∧
            store.render? template .optimization = some keep) ∧
      (store.AcceptsWhere template (¬ ·.NestedIn template) → ∀ mode,
        store.render? template mode = store.render? template .keepUnmatched)) ∧
    (store.RenderFits template .optimization →
      ∀ mode, (store.render? template mode).isSome) := by
  refine ⟨?_, fun hnested => ⟨?_, ?_⟩, fun hfits mode => ?_⟩
  · rintro hflat k span hk ⟨outer, houter, hencloses⟩
    have hspan := (order_perm (scan template)).mem_iff.1 (List.mem_of_getElem? hk)
    exact absurd hencloses (hflat outer houter span hspan)
  · intro keep delete hkeep hdelete
    have hkeep' : resolve? template store.bindings .keep = some keep := hkeep
    have hdelete' : resolve? template store.bindings .delete = some delete := hdelete
    have hreplaced := hnested.replaced_eq hkeep' hdelete'
    refine ⟨hreplaced, ?_⟩
    rw [Store.render?, hkeep', hdelete']
    exact congrArg some (Resolution.best_of_le (Nat.le_of_eq hreplaced))
  · exact fun houter mode => Store.render?_of_acceptsAt (hnested.acceptsAt houter) mode
  · refine Store.render?_isSome fun policy _ => hfits policy ?_
    cases policy <;> decide

/-- The nested placeholder is accepted. In the first template an outer one goes or stays, before
another that is accepted; in the second there is only that other one, and in the third none is
nested. -/
theorem render?_of_nested_accepted_outermost :
    let store : Store := ⟨[⟨['b'], ['x', 'é'], .sensitive⟩, ⟨['a', 'x', 'É'], ['}'], .insensitive⟩]⟩
    let template : Text := ['$', '{', 'c', '}', '$', '{', 'A', '$', '{', 'b', '}', '}']
    let accepted : Text := ['$', '{', 'A', '$', '{', 'b', '}', '}']
    let flat : Text := ['$', '{', 'c', '}', '$', '{', 'b', '}']
    (∃ keep delete, store.render? template .keepUnmatched = some keep ∧
      store.render? template .deleteUnmatched = some delete ∧ delete.replaced = keep.replaced ∧
        store.render? template .optimization = some keep) ∧
    (∀ mode, store.render? accepted mode = store.render? accepted .keepUnmatched) ∧
    store.AcceptsWhere flat (·.NestedIn flat) := by
  intro store template accepted flat
  have horder : order (scan template) = [⟨1, 3, ['c']⟩, ⟨8, 10, ['b']⟩,
      ⟨5, 11, ['A', '$', '{', 'b', '}']⟩] :=
    order_eq_of_perm (by decide) (by decide) (by decide)
  have horder' : order (scan accepted) =
      [⟨4, 6, ['b']⟩, ⟨1, 7, ['A', '$', '{', 'b', '}']⟩] :=
    order_eq_of_perm (by decide) (by decide) (by decide)
  have hfits : store.RenderFits template .optimization := by
    intro policy _
    rw [horder]
    cases policy <;> exact ⟨by decide, by decide⟩
  have hnested : store.AcceptsWhere template (·.NestedIn template) := by
    unfold Store.AcceptsWhere
    rw [horder]
    rintro (_ | _ | _ | k) span hk hspan
    · obtain rfl := Option.some.inj hk
      exact absurd hspan (by decide)
    · decide
    · obtain rfl := Option.some.inj hk
      exact absurd hspan (by decide)
    · cases hk
  have haccepted : ∀ p, store.AcceptsWhere accepted p := by
    unfold Store.AcceptsWhere
    rw [horder']
    rintro p (_ | _ | k) span hk _
    · decide
    · decide
    · cases hk
  obtain ⟨-, hcounts, hsome⟩ := render?_of_nested_accepted store template
  obtain ⟨keep, hkeep⟩ := Option.isSome_iff_exists.1 (hsome hfits .keepUnmatched)
  obtain ⟨delete, hdelete⟩ := Option.isSome_iff_exists.1 (hsome hfits .deleteUnmatched)
  obtain ⟨hreplaced, hbest⟩ := (hcounts hnested).1 keep delete hkeep hdelete
  refine ⟨⟨keep, delete, hkeep, hdelete, hreplaced, hbest⟩, ?_, ?_⟩
  · exact ((render?_of_nested_accepted store accepted).2.1 (haccepted _)).2 (haccepted _)
  · exact (render?_of_nested_accepted store flat).1 (by decide)

end Interpolation
