import Interpolation.Proofs.Template.Residue
import Interpolation.Proofs.Resolution.Prefix
import Interpolation.Proofs.Resolution.Safety
import Interpolation.Proofs.Resolution.Evaluation

/-!
Scanning the buffer of a run again.
-/
namespace Interpolation

open Template

private theorem exists_replacement?_delete (bindings : List Binding) (content : Text) :
    ∃ value, replacement? bindings .delete content = some value := by
  unfold replacement?
  cases firstAccepting bindings content with
  | some binding => exact ⟨binding.value, rfl⟩
  | none => exact ⟨[], rfl⟩

private theorem plain_fill_delete {bindings : List Binding}
    (hvalues : ∀ b ∈ bindings, b.value.Plain) (content : Text) :
    (fill bindings .delete content).output.Plain := by
  obtain ⟨value, hvalue⟩ := exists_replacement?_delete bindings content
  rw [fill_output, hvalue]
  exact plain_of_replacement? hvalues hvalue

namespace Run

/-- The buffer is read as `t`, so that a scan of it finds the waiting spans, and the same goes for
what comes of it when a plain value takes the place of one. -/
structure Mirrors (run : Run) (t : Template) : Prop extends run.Represents t where
  canonical : t.Canonical true true
  separated : t.Separated

namespace Mirrors

variable {bindings : List Binding} {run next : Run} {t : Template}

theorem waiting_perm_scan (h : run.Mirrors t) : run.waiting.Perm (scan run.buffer) := by
  rw [← h.text, h.canonical.scan_text]
  exact h.waiting

theorem step? (h : run.Mirrors t) (hvalues : ∀ b ∈ bindings, b.value.Plain)
    (hstep : run.step? bindings .delete = some next) : ∃ t', next.Mirrors t' := by
  cases hw : run.waiting with
  | nil =>
    rw [Run.step?, hw] at hstep
    obtain rfl := Option.some.inj hstep
    exact ⟨t, h⟩
  | cons span waiting =>
    obtain ⟨t', hnext, hsettles, -⟩ := h.toRepresents.settles_of_step? hw hstep
    have hplain := plain_fill_delete hvalues span.content
    exact ⟨t', hnext, hsettles.canonical hplain h.separated h.canonical,
      hsettles.separated hplain h.separated⟩

theorem steps? {k : Nat} (h : run.Mirrors t) (hvalues : ∀ b ∈ bindings, b.value.Plain)
    (hsteps : Run.steps? bindings .delete k run = some next) : ∃ t', next.Mirrors t' := by
  induction k generalizing run t with
  | zero =>
    obtain rfl := Option.some.inj hsteps
    exact ⟨t, h⟩
  | succ k ih =>
    obtain ⟨mid, hmid, hsteps⟩ := Option.bind_eq_some_iff.1 hsteps
    obtain ⟨t', h'⟩ := h.step? hvalues hmid
    exact ih h' hsteps

end Mirrors

private theorem mirrors_start {text : Text} {spans : List Span} (hdollars : ¬ ['$', '$'] <:+: text)
    (h : spans.Perm (scan text)) (hinner : Span.InnerFirst spans) :
    (start text spans).Mirrors (parse text) where
  toRepresents := represents_parse h hinner
  canonical := canonical_parse text
  separated := separated_of_text (by rwa [text_parse])

private theorem waiting_eq_nil_of_steps? {text : Text} {spans : List Span} {bindings : List Binding}
    {policy : Policy} {run : Run} (h : spans.Perm (scan text)) (hinner : Span.InnerFirst spans)
    (hrun : steps? bindings policy spans.length (start text spans) = some run) :
    run.waiting = [] := by
  obtain ⟨t, hreached⟩ := reached_of_steps? (represents_parse h hinner) hrun
  exact hreached.waiting_eq_nil (Nat.le_refl _)

/-- Placeholders that are not to be replaced only wait for their turn to pass. -/
private theorem steps?_of_replacement?_eq_none {bindings : List Binding} {policy : Policy}
    (run : Run) (h : ∀ span ∈ run.waiting, replacement? bindings policy span.content = none) :
    steps? bindings policy run.waiting.length run = some { run with waiting := [] } := by
  obtain ⟨buffer, waiting, replaced⟩ := run
  induction waiting with
  | nil => rfl
  | cons span waiting ih =>
    obtain ⟨hspan, hwaiting⟩ := List.forall_mem_cons.1 h
    have hstep : Run.step? bindings policy ⟨buffer, span :: waiting, replaced⟩ =
        some ⟨buffer, waiting, replaced⟩ := (StepsTo.kept hspan).step?_eq
    dsimp only [List.length_cons]
    rw [steps?, hstep]
    exact ih hwaiting

end Run

private theorem substitute?_of_replacement?_eq_none {text : Text} {spans : List Span}
    {bindings : List Binding} {policy : Policy}
    (h : ∀ span ∈ spans, replacement? bindings policy span.content = none) :
    substitute? text spans bindings policy = some ⟨text, 0⟩ := by
  have hsteps := Run.steps?_of_replacement?_eq_none (.start text spans) h
  dsimp only [Run.start] at hsteps
  rw [substitute?, Run.start, hsteps]
  rfl

/-- What a run leaves of a text, another run leaves as it is. -/
theorem resolve?_output {text : Text} {bindings : List Binding} {policy : Policy} {r : Resolution}
    (hdollars : ¬ ['$', '$'] <:+: text) (hvalues : ∀ b ∈ bindings, b.value.Plain)
    (hr : resolve? text bindings policy = some r) :
    resolve? r.output bindings policy = some ⟨r.output, 0⟩ := by
  obtain rfl := eq_evaluate_of_resolve? hr
  have hseparated : (parse text).Separated := separated_of_text (by rwa [text_parse])
  have hcanonical : ((parse text).residue bindings policy).Canonical true true :=
    canonical_residue hvalues hseparated (canonical_parse text)
  have hscan := hcanonical.scan_text
  rw [text_residue] at hscan
  -- A scan of what is left finds the placeholders that were tried and kept, if any.
  refine substitute?_of_replacement?_eq_none fun span hs => ?_
  have hmem := (order_perm _).mem_iff.1 hs
  rw [hscan] at hmem
  exact replacement?_of_mem_residue hmem

/-- Where values are plain and no two dollar signs meet, the spans that wait in a deleting run are
at every step the placeholders of the buffer as it is then, and in the end there are none. -/
theorem waiting_perm_scan_of_delete (text : Text) (bindings : List Binding)
    (hdollars : ¬ ['$', '$'] <:+: text) (hvalues : ∀ b ∈ bindings, b.value.Plain) :
    (∀ k, ((Run.start text (order (scan text))).Fits bindings .delete →
        (Run.steps? bindings .delete k (.start text (order (scan text)))).isSome) ∧
      ∀ run, Run.steps? bindings .delete k (.start text (order (scan text))) = some run →
        run.waiting.Perm (scan run.buffer)) ∧
    (Store.RenderFits ⟨bindings⟩ text .deleteUnmatched →
      (Store.render? ⟨bindings⟩ text .deleteUnmatched).isSome) ∧
    ∀ r, Store.render? ⟨bindings⟩ text .deleteUnmatched = some r → scan r.output = [] := by
  have hperm := order_perm (scan text)
  have hinner := innerFirst_order_scan text
  have hstart := Run.mirrors_start hdollars hperm hinner
  refine ⟨fun k => ⟨fun hfits => steps?_isSome hperm.subperm hinner hfits k, fun run hrun => ?_⟩,
    Store.render?_isSome, fun r hr => ?_⟩
  · obtain ⟨t, ht⟩ := hstart.steps? hvalues hrun
    exact ht.waiting_perm_scan
  · obtain ⟨run, hrun, rfl⟩ := Option.map_eq_some_iff.1 hr
    obtain ⟨t, ht⟩ := hstart.steps? hvalues hrun
    have hwaiting := Run.waiting_eq_nil_of_steps? hperm hinner hrun
    have hscan := ht.waiting_perm_scan
    rw [hwaiting] at hscan
    exact hscan.symm.eq_nil

/-- Among a stray closing brace and an opening that stays unclosed, the first step takes the inner
placeholder away and leaves the one around it. -/
theorem waiting_perm_scan_of_delete_malformed :
    let text : Text := ['}', '$', '{', 'a', '$', '{', 'é', '}', '{', '}', '$', '{', 'b']
    let bindings : List Binding := [⟨['a', '{'], ['c', 'd'], .sensitive⟩]
    (∃ run, Run.steps? bindings .delete 1 (.start text (order (scan text))) = some run ∧
      run.waiting.Perm (scan run.buffer)) ∧
    ∃ r, Store.render? ⟨bindings⟩ text .deleteUnmatched = some r ∧ scan r.output = [] := by
  intro text bindings
  have horder : order (scan text) =
      [⟨5, 8, ['é']⟩, ⟨2, 10, ['a', '$', '{', 'é', '}', '{']⟩] :=
    order_eq_of_perm (by decide) (by decide) (by decide)
  have hfits : (Run.start text (order (scan text))).Fits bindings .delete := by
    rw [horder]
    exact ⟨by decide, by decide⟩
  have hrender : Store.RenderFits ⟨bindings⟩ text .deleteUnmatched := by
    intro policy hpolicy
    obtain rfl := List.mem_singleton.1 hpolicy
    exact hfits
  obtain ⟨hsteps, hsome, hscan⟩ :=
    waiting_perm_scan_of_delete text bindings (by decide) (by decide)
  obtain ⟨hfirst, hperm⟩ := hsteps 1
  obtain ⟨run, hrun⟩ := Option.isSome_iff_exists.1 (hfirst hfits)
  obtain ⟨r, hr⟩ := Option.isSome_iff_exists.1 (hsome hrender)
  exact ⟨⟨run, hrun, hperm run hrun⟩, r, hr, hscan r hr⟩

/-- Where values are plain and no two dollar signs meet, keeping and deleting what no binding
accepts are idempotent: nothing is left to replace in what they leave. -/
theorem render?_idempotent (store : Store) (template : Text) (mode : Mode)
    (hdollars : ¬ ['$', '$'] <:+: template) (hvalues : ∀ b ∈ store.bindings, b.value.Plain)
    (hmode : mode = .keepUnmatched ∨ mode = .deleteUnmatched) :
    (store.RenderFits template mode → (store.render? template mode).isSome) ∧
    ∀ r, store.render? template mode = some r →
      store.render? r.output mode = some ⟨r.output, 0⟩ := by
  refine ⟨Store.render?_isSome, fun r hr => ?_⟩
  rcases hmode with rfl | rfl
  · exact resolve?_output hdollars hvalues hr
  · exact resolve?_output hdollars hvalues hr

/-- A placeholder is kept with what an empty value has made of its content. -/
theorem render?_idempotent_kept :
    let template : Text := ['$', '{', 'a', '$', '{', 'é', '}', '{', '}', '$', '{', 'é', '}']
    let store : Store := ⟨[⟨['é'], [], .sensitive⟩]⟩
    ∃ r, store.render? template .keepUnmatched = some r ∧
      store.render? r.output .keepUnmatched = some ⟨r.output, 0⟩ := by
  intro template store
  have horder : order (scan template) =
      [⟨4, 7, ['é']⟩, ⟨11, 14, ['é']⟩, ⟨1, 9, ['a', '$', '{', 'é', '}', '{']⟩] :=
    order_eq_of_perm (by decide) (by decide) (by decide)
  have hrender : store.RenderFits template .keepUnmatched := by
    intro policy hpolicy
    obtain rfl := List.mem_singleton.1 hpolicy
    rw [horder]
    exact ⟨by decide, by decide⟩
  obtain ⟨hsome, hagain⟩ :=
    render?_idempotent store template .keepUnmatched (by decide) (by decide) (.inl rfl)
  obtain ⟨r, hr⟩ := Option.isSome_iff_exists.1 (hsome hrender)
  exact ⟨r, hr, hagain r hr⟩

end Interpolation
