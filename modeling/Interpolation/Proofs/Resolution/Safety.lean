import Interpolation.Render
import Interpolation.Proofs.Resolution.Run
import Interpolation.Proofs.Span.Nesting

/-!
Runs over placeholders of a text are defined, since all edits cut between characters.
-/
namespace Interpolation

open Text Template

/-- Any placeholders of a text are all placeholders of a template with the same text. -/
private theorem exists_represents {text : Text} {spans : List Span} (h : spans.Subperm (scan text))
    (hinner : Span.InnerFirst spans) : ∃ t, (Run.start text spans).Represents t := by
  obtain ⟨chosen, hperm, hchosen⟩ := h
  rw [← spans_parse] at hchosen
  obtain ⟨t, htext, hspans⟩ := exists_spansFrom_eq hchosen
  refine ⟨t, htext.trans (text_parse text), ?_, hinner⟩
  rw [Template.spans, hspans]
  exact hperm.symm

theorem steps?_isSome {text : Text} {spans : List Span} {bindings : List Binding}
    {policy : Policy} (h : spans.Subperm (scan text)) (hinner : Span.InnerFirst spans)
    (hfits : (Run.start text spans).Fits bindings policy) (k : Nat) :
    (Run.steps? bindings policy k (.start text spans)).isSome := by
  obtain ⟨t, ht⟩ := exists_represents h hinner
  rcases Run.reached_steps? bindings policy ht k with ⟨run, t', hrun, -⟩ | ⟨-, hlong⟩
  · rw [hrun]
    rfl
  · exact absurd hfits hlong

theorem substitute?_isSome {text : Text} {spans : List Span} {bindings : List Binding}
    {policy : Policy} (h : spans.Subperm (scan text)) (hinner : Span.InnerFirst spans)
    (hfits : (Run.start text spans).Fits bindings policy) :
    (substitute? text spans bindings policy).isSome := by
  rw [substitute?, Option.isSome_map]
  exact steps?_isSome h hinner hfits spans.length

/-- Nothing goes wrong when `value` takes the place of `span` in `buffer` and the waiting spans are
rebased in what comes of it, `spliced`: both cuts are at boundaries of characters, new offsets are
words, and so is the new content of a span around this one a part of the new buffer. -/
structure Span.EditsDefined (span : Span) (value : Text) (waiting : List Span)
    (buffer spliced : Text) : Prop where
  one_le_start : 1 ≤ span.start
  head : (buffer.splitAt? (span.start - 1)).isSome
  tail : (buffer.splitAt? (span.stop + 1)).isSome
  enclosing : ∀ w ∈ waiting, w.Encloses span →
    ∃ stop, shift? (byteLength value) span.placeholderLength w.stop = some stop ∧
      (spliced.slice? (w.start + 1) stop).isSome
  later : ∀ w ∈ waiting, ¬ w.Encloses span → span.stop < w.start →
    (shift? (byteLength value) span.placeholderLength w.start).isSome ∧
      (shift? (byteLength value) span.placeholderLength w.stop).isSome

private theorem isSome_of_mapM_eq_some {α β : Type} {f : α → Option β} {l : List α} {l' : List β}
    (h : l.mapM f = some l') : ∀ a ∈ l, (f a).isSome := by
  induction l generalizing l' with
  | nil => simp
  | cons a l ih =>
    rw [List.mapM_cons, Option.bind_eq_bind, Option.bind_eq_some_iff] at h
    obtain ⟨b, hb, h⟩ := h
    rw [Option.bind_eq_bind, Option.bind_eq_some_iff] at h
    obtain ⟨bs, hbs, -⟩ := h
    simp only [List.mem_cons, forall_eq_or_imp, hb, Option.isSome_some, true_and]
    exact ih hbs

/-- A step is defined only if all its edits are. -/
private theorem editsDefined_of_step? {bindings : List Binding} {policy : Policy} {run next : Run}
    {span : Span} {waiting : List Span} {value : Text}
    (h : run.step? bindings policy = some next) (hw : run.waiting = span :: waiting)
    (hvalue : replacement? bindings policy span.content = some value) :
    ∃ spliced, span.splice? value run.buffer = some spliced ∧
      span.EditsDefined value waiting run.buffer spliced := by
  unfold Run.step? at h
  rw [hw] at h
  dsimp only at h
  rw [hvalue] at h
  obtain ⟨spliced, hspliced, h⟩ := Option.bind_eq_some_iff.1 h
  obtain ⟨moved, hmoved, -⟩ := Option.bind_eq_some_iff.1 h
  have hrebase := isSome_of_mapM_eq_some hmoved
  refine ⟨spliced, hspliced, ?_⟩
  unfold Span.splice? at hspliced
  split at hspliced
  · cases hspliced
  rename_i hstart
  obtain ⟨head, hhead, hspliced⟩ := Option.bind_eq_some_iff.1 hspliced
  obtain ⟨tail, htail, -⟩ := Option.bind_eq_some_iff.1 hspliced
  refine ⟨Nat.one_le_iff_ne_zero.2 hstart, by rw [hhead]; rfl, by rw [htail]; rfl, ?_, ?_⟩
  · intro w hmem hencloses
    obtain ⟨moved, hmoved⟩ := Option.isSome_iff_exists.1 (hrebase w hmem)
    unfold Span.rebase? at hmoved
    rw [if_pos hencloses] at hmoved
    obtain ⟨stop, hstop, hmoved⟩ := Option.bind_eq_some_iff.1 hmoved
    obtain ⟨content, hcontent, -⟩ := Option.bind_eq_some_iff.1 hmoved
    exact ⟨stop, hstop, by rw [hcontent]; rfl⟩
  · intro w hmem hencloses hlater
    obtain ⟨moved, hmoved⟩ := Option.isSome_iff_exists.1 (hrebase w hmem)
    unfold Span.rebase? at hmoved
    rw [if_neg hencloses, if_pos hlater] at hmoved
    obtain ⟨start, hstart, hmoved⟩ := Option.bind_eq_some_iff.1 hmoved
    obtain ⟨stop, hstop, -⟩ := Option.bind_eq_some_iff.1 hmoved
    exact ⟨by rw [hstart]; rfl, by rw [hstop]; rfl⟩

private theorem editsDefined_of_steps? {text : Text} {spans : List Span} {bindings : List Binding}
    {policy : Policy} (h : spans.Subperm (scan text)) (hinner : Span.InnerFirst spans)
    (hfits : (Run.start text spans).Fits bindings policy) {k : Nat} {run : Run} {span : Span}
    {waiting : List Span} {value : Text}
    (hrun : Run.steps? bindings policy k (.start text spans) = some run)
    (hw : run.waiting = span :: waiting)
    (hvalue : replacement? bindings policy span.content = some value) :
    ∃ spliced, span.splice? value run.buffer = some spliced ∧
      span.EditsDefined value waiting run.buffer spliced := by
  have hnext := steps?_isSome h hinner hfits (k + 1)
  rw [Run.steps?_add, hrun, Option.bind_some, Option.isSome_iff_exists] at hnext
  obtain ⟨next, hnext⟩ := hnext
  obtain ⟨next, hstep, -⟩ := Option.bind_eq_some_iff.1 hnext
  exact editsDefined_of_step? hstep hw hvalue

/-- The policies that a mode runs under. -/
def Mode.policies : Mode → List Policy
  | .keepUnmatched => [.keep]
  | .deleteUnmatched => [.delete]
  | .optimization => [.keep, .delete]

/-- The runs of a rendering stay in memory. -/
def Store.RenderFits (store : Store) (template : Text) (mode : Mode) : Prop :=
  ∀ policy ∈ mode.policies,
    (Run.start template (order (scan template))).Fits store.bindings policy

theorem Store.render?_isSome {store : Store} {template : Text} {mode : Mode}
    (h : store.RenderFits template mode) : (store.render? template mode).isSome := by
  have hresolve : ∀ policy ∈ mode.policies,
      (resolve? template store.bindings policy).isSome := fun policy hmem =>
    substitute?_isSome (order_perm _).subperm (innerFirst_order_scan template) (h policy hmem)
  cases mode with
  | keepUnmatched => exact hresolve .keep (by decide)
  | deleteUnmatched => exact hresolve .delete (by decide)
  | optimization =>
    obtain ⟨keep, hkeep⟩ := Option.isSome_iff_exists.1 (hresolve .keep (by decide))
    obtain ⟨delete, hdelete⟩ := Option.isSome_iff_exists.1 (hresolve .delete (by decide))
    rw [render?, hkeep, hdelete]
    rfl

theorem evaluate?_isSome {template : Option Text} {store : Option Store} {mode : Option String}
    (h : ∀ t ∈ template, ∀ s ∈ store, s.RenderFits t (.ofName mode)) :
    (evaluate? template store mode).isSome := by
  cases template with
  | none => rfl
  | some template =>
    cases store with
    | none => rfl
    | some store =>
      rw [evaluate?]
      split
      · rfl
      · rw [Option.isSome_map]
        exact Store.render?_isSome (h template rfl store rfl)

/-- Resolving any placeholders of a text, inner ones first, is defined, with every edit on the way;
so are rendering and evaluating, for every template, store and mode. -/
theorem resolution_defined :
    (∀ (text : Text) (spans : List Span) (bindings : List Binding) (policy : Policy),
      spans.Subperm (scan text) → Span.InnerFirst spans →
        (Run.start text spans).Fits bindings policy →
          (substitute? text spans bindings policy).isSome ∧
          ∀ k run span waiting value,
            Run.steps? bindings policy k (.start text spans) = some run →
            run.waiting = span :: waiting →
            replacement? bindings policy span.content = some value →
              ∃ spliced, span.splice? value run.buffer = some spliced ∧
                span.EditsDefined value waiting run.buffer spliced) ∧
    (∀ text, (order (scan text)).Subperm (scan text) ∧ Span.InnerFirst (order (scan text))) ∧
    (∀ (store : Store) (template : Text) (mode : Mode), store.RenderFits template mode →
      (store.render? template mode).isSome) ∧
    ∀ (template : Option Text) (store : Option Store) (mode : Option String),
      (∀ t ∈ template, ∀ s ∈ store, s.RenderFits t (.ofName mode)) →
        (evaluate? template store mode).isSome := by
  refine ⟨fun text spans bindings policy h hinner hfits => ⟨?_, ?_⟩,
    fun text => ⟨(order_perm _).subperm, innerFirst_order_scan text⟩,
    fun _ _ _ h => Store.render?_isSome h, fun _ _ _ h => evaluate?_isSome h⟩
  · exact substitute?_isSome h hinner hfits
  · intro k run span waiting value hrun hw hvalue
    exact editsDefined_of_steps? h hinner hfits hrun hw hvalue

/-- A run that leaves out the first placeholder and resolves the inner ones from the right, with
values of several bytes in and around contents of several bytes. -/
theorem resolution_defined_multibyte :
    let text : Text := ['$', '{', 'ç', '}', '$', '{', '$', '{', 'a', '}', 'é', '$', '{', 'b', '}',
      '}']
    let store : Store := ⟨[⟨['a'], ['→', 'b'], .sensitive⟩, ⟨['b'], [], .sensitive⟩]⟩
    let spans : List Span := [⟨14, 16, ['b']⟩, ⟨8, 10, ['a']⟩,
      ⟨6, 17, ['$', '{', 'a', '}', 'é', '$', '{', 'b', '}']⟩]
    (substitute? text spans store.bindings .delete).isSome ∧
      (store.render? text .optimization).isSome ∧
      (evaluate? (some text) (some store) none).isSome := by
  intro text store spans
  have horder : order (scan text) = [⟨1, 4, ['ç']⟩, ⟨8, 10, ['a']⟩, ⟨14, 16, ['b']⟩,
      ⟨6, 17, ['$', '{', 'a', '}', 'é', '$', '{', 'b', '}']⟩] :=
    order_eq_of_perm (by decide) (by decide) (by decide)
  have hfits : (Run.start text spans).Fits store.bindings .delete := ⟨by decide, by decide⟩
  have hrender : ∀ mode : Mode, store.RenderFits text mode := by
    intro mode policy _
    rw [horder]
    cases policy <;> exact ⟨by decide, by decide⟩
  refine ⟨(resolution_defined.1 text spans store.bindings .delete ?_ (by decide) hfits).1,
    resolution_defined.2.2.1 store text .optimization (hrender _),
    resolution_defined.2.2.2 (some text) (some store) none fun t ht s hs => ?_⟩
  · exact ⟨[⟨8, 10, ['a']⟩, ⟨14, 16, ['b']⟩,
      ⟨6, 17, ['$', '{', 'a', '}', 'é', '$', '{', 'b', '}']⟩], by decide, by decide⟩
  · obtain rfl := Option.mem_some_iff.1 ht
    obtain rfl := Option.mem_some_iff.1 hs
    exact hrender _

/-- After any number of steps in resolution order, each waiting span describes the buffer as it is
then, and any two lie to each other as they did in the text. -/
theorem steps?_order_scan (text : Text) (bindings : List Binding) (policy : Policy) (k : Nat) :
    ((Run.start text (order (scan text))).Fits bindings policy →
      (Run.steps? bindings policy k (.start text (order (scan text)))).isSome) ∧
    ∀ run, Run.steps? bindings policy k (.start text (order (scan text))) = some run →
      (∀ span ∈ run.waiting, span.Describes run.buffer) ∧
        Span.SameArrangement run.waiting ((order (scan text)).drop k) := by
  refine ⟨fun hfits => steps?_isSome (order_perm _).subperm (innerFirst_order_scan text) hfits k,
    fun run hrun => ?_⟩
  obtain ⟨t, ht⟩ := exists_represents (order_perm _).subperm (innerFirst_order_scan text)
  rcases Run.reached_steps? bindings policy ht k with ⟨run', t', hrun', hreached⟩ | ⟨hnone, -⟩
  · obtain rfl := Option.some.inj (hrun.symm.trans hrun')
    exact ⟨fun span hs => (hreached.standsFrom hs).describes, hreached.arrangement⟩
  · rw [hrun] at hnone
    cases hnone

/-- The two spans that wait while the third has grown: the one around it and one behind it. -/
theorem steps?_order_scan_one :
    let text : Text := ['$', '{', 'a', '$', '{', 'b', '}', '}', '-', '$', '{', 'c', 'd', '}']
    let bindings : List Binding := [⟨['b'], ['é', '}'], .sensitive⟩]
    ∃ run, Run.steps? bindings .keep 1 (.start text (order (scan text))) = some run ∧
      (∀ span ∈ run.waiting, span.Describes run.buffer) ∧
        Span.SameArrangement run.waiting ((order (scan text)).drop 1) := by
  intro text bindings
  have horder : order (scan text) =
      [⟨4, 6, ['b']⟩, ⟨10, 13, ['c', 'd']⟩, ⟨1, 7, ['a', '$', '{', 'b', '}']⟩] :=
    order_eq_of_perm (by decide) (by decide) (by decide)
  have hfits : (Run.start text (order (scan text))).Fits bindings .keep := by
    rw [horder]
    exact ⟨by decide, by decide⟩
  obtain ⟨hsome, hrun⟩ := steps?_order_scan text bindings .keep 1
  obtain ⟨run, hstep⟩ := Option.isSome_iff_exists.1 (hsome hfits)
  exact ⟨run, hstep, hrun run hstep⟩

end Interpolation
