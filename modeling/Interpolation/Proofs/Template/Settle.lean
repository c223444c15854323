import Interpolation.Template.Evaluate
import Interpolation.Proofs.Span.Move
import Interpolation.Proofs.Template.Spans

/-!
Settling one placeholder of a template, as one step of a run does.
-/
namespace Interpolation.Template

open Text

/-- The template without placeholders that a text is. -/
def ofText : Text → Template
  | [] => empty
  | c :: rest => literal c (ofText rest)

@[simp] theorem text_ofText (t : Text) : (ofText t).text = t := by
  induction t with
  | nil => rfl
  | cons c rest ih => simp [ofText, text, ih]

@[simp] theorem spansFrom_ofText (t : Text) (offset : Nat) : (ofText t).spansFrom offset = [] := by
  induction t generalizing offset with
  | nil => rfl
  | cons c rest ih => exact ih _

theorem evaluate_of_spansFrom_eq_nil {bindings : List Binding} {policy : Policy} {t : Template}
    {offset : Nat} (h : t.spansFrom offset = []) : t.evaluate bindings policy = ⟨t.text, 0⟩ := by
  induction t generalizing offset with
  | empty => rfl
  | literal c rest ih => simp [evaluate, ih h, text]
  | placeholder body rest _ _ => simp [spansFrom] at h

/-- All spans of a template move along when a placeholder in front of it changes its length. -/
private theorem forall₂_moves_spansFrom {span : Span} {inserted offset offset' : Nat} (t : Template)
    (h : span.stop < offset) (h' : offset' + span.placeholderLength = offset + inserted) :
    List.Forall₂ (span.Moves inserted) (t.spansFrom offset) (t.spansFrom offset') := by
  induction t generalizing offset offset' with
  | empty => exact .nil
  | literal c rest ih => exact ih (by omega) (by omega)
  | placeholder body rest ihBody ihRest =>
    have hself : span.Moves inserted
        ⟨offset + 1, offset + 2 + byteLength body.text, body.text⟩
        ⟨offset' + 1, offset' + 2 + byteLength body.text, body.text⟩ :=
      .after (by dsimp only; omega) (by dsimp only; omega) (by dsimp only; omega)
        (by dsimp only; omega) rfl
    exact List.rel_append (ihBody (by omega) (by omega))
      (.cons hself (ihRest (by omega) (by omega)))

/-- In a template whose text begins at byte offset `offset`, the placeholder at `span`, which holds
no other, gives way to `value` as literal text. -/
inductive Settles (value : Text) (span : Span) : Nat → Template → Template → Prop
  | here {offset : Nat} {body rest : Template} (hbody : body.spansFrom (offset + 2) = [])
    (hstart : span.start = offset + 1) (hstop : span.stop = offset + 2 + byteLength body.text)
    (hcontent : span.content = body.text) :
    Settles value span offset (placeholder body rest) (ofText value ++ rest)
  | literal {offset : Nat} {c : Char} {rest rest' : Template}
    (h : Settles value span (offset + c.utf8Size) rest rest') :
    Settles value span offset (literal c rest) (literal c rest')
  | body {offset : Nat} {body body' rest : Template}
    (h : Settles value span (offset + 2) body body') :
    Settles value span offset (placeholder body rest) (placeholder body' rest)
  | rest {offset : Nat} {body rest rest' : Template}
    (h : Settles value span (offset + 2 + byteLength body.text + 1) rest rest') :
    Settles value span offset (placeholder body rest) (placeholder body rest')

/-- A placeholder can settle once no other is left in it. -/
theorem exists_settles (value : Text) {t : Template} {offset : Nat} {s : Span}
    (hs : s ∈ t.spansFrom offset) (hinner : ∀ w ∈ t.spansFrom offset, ¬ s.Encloses w) :
    ∃ t', Settles value s offset t t' := by
  induction t generalizing offset with
  | empty => simp [spansFrom] at hs
  | literal c rest ih =>
    obtain ⟨rest', h⟩ := ih hs hinner
    exact ⟨_, .literal h⟩
  | placeholder body rest ihBody ihRest =>
    simp only [spansFrom, List.mem_append, List.mem_cons] at hs hinner
    rcases hs with hs | rfl | hs
    · obtain ⟨body', h⟩ := ihBody hs fun w hw => hinner w (.inl hw)
      exact ⟨_, .body h⟩
    · refine ⟨_, .here (List.eq_nil_iff_forall_not_mem.2 fun w hw => ?_) rfl rfl rfl⟩
      have hstart := (standsFrom_of_mem hw).offset_lt_start
      have hstop := (standsFrom_of_mem hw).stop_lt
      exact hinner w (.inl hw) ⟨by dsimp only; omega, hstop⟩
    · obtain ⟨rest', h⟩ := ihRest hs fun w hw => hinner w (.inr (.inr hw))
      exact ⟨_, .rest h⟩

namespace Settles

variable {value : Text} {span : Span} {offset : Nat} {t t' : Template}

theorem text (h : Settles value span offset t t') :
    ∃ before after, t.text = before ++ span.placeholder ++ after ∧
      t'.text = before ++ value ++ after ∧ span.start = offset + byteLength before + 1 ∧
      span.stop = span.start + 1 + byteLength span.content := by
  induction h with
  | @here offset body rest hbody hstart hstop hcontent =>
    refine ⟨[], rest.text, ?_, by simp, by simpa using hstart, ?_⟩
    · simp [Template.text, Span.placeholder, hcontent]
    · rw [hstop, hstart, hcontent]
  | @literal offset c rest rest' h ih =>
    obtain ⟨before, after, htext, htext', hstart, hstop⟩ := ih
    refine ⟨c :: before, after, by simp [Template.text, htext], by simp [Template.text, htext'],
      ?_, hstop⟩
    rw [hstart, byteLength_cons]
    omega
  | @body offset body body' rest h ih =>
    obtain ⟨before, after, htext, htext', hstart, hstop⟩ := ih
    refine ⟨'$' :: '{' :: before, after ++ '}' :: rest.text, by simp [Template.text, htext],
      by simp [Template.text, htext'], ?_, hstop⟩
    simp only [hstart, byteLength_cons, utf8Size_dollar, utf8Size_opening]
    omega
  | @rest offset body rest rest' h ih =>
    obtain ⟨before, after, htext, htext', hstart, hstop⟩ := ih
    refine ⟨'$' :: '{' :: body.text ++ '}' :: before, after, by simp [Template.text, htext],
      by simp [Template.text, htext'], ?_, hstop⟩
    simp only [hstart, byteLength_append, byteLength_cons, List.cons_append, utf8Size_dollar,
      utf8Size_opening, utf8Size_closing]
    omega

theorem standsFrom (h : Settles value span offset t t') : span.StandsFrom offset t.text := by
  obtain ⟨before, after, htext, -, hstart, hstop⟩ := h.text
  exact ⟨before, after, htext, hstart, hstop⟩

/-- Splicing a value in is settling for it. -/
theorem splice? (h : Settles value span 0 t t') : span.splice? value t.text = some t'.text := by
  obtain ⟨before, after, htext, htext', hstart, hstop⟩ := h.text
  have hhead : t.text.splitAt? (span.start - 1) = some (before, span.placeholder ++ after) := by
    refine splitAt?_eq_some_iff.2 ⟨by simp [htext], ?_⟩
    omega
  have htail : t.text.splitAt? (span.stop + 1) = some (before ++ span.placeholder, after) := by
    refine splitAt?_eq_some_iff.2 ⟨htext.symm, ?_⟩
    rw [byteLength_append, Span.byteLength_placeholder, Span.placeholderLength]
    omega
  unfold Span.splice?
  rw [if_neg (by omega), hhead, htail, htext']
  rfl

theorem text_eq_of_placeholder (h : Settles span.placeholder span offset t t') :
    t'.text = t.text := by
  obtain ⟨before, after, htext, htext', -, -⟩ := h.text
  rw [htext, htext']

private theorem byteLength_text (h : Settles value span offset t t') :
    byteLength t'.text + span.placeholderLength = byteLength t.text + byteLength value := by
  obtain ⟨before, after, htext, htext', -, -⟩ := h.text
  simp only [htext, htext', byteLength_append, Span.byteLength_placeholder]
  omega

/-- The other spans move, and no span comes or goes. -/
theorem forall₂_moves (h : Settles value span offset t t') :
    ∃ earlier later, t.spansFrom offset = earlier ++ span :: later ∧
      List.Forall₂ (span.Moves (byteLength value)) (earlier ++ later) (t'.spansFrom offset) := by
  induction h with
  | @here offset body rest hbody hstart hstop hcontent =>
    refine ⟨[], rest.spansFrom (offset + 2 + byteLength body.text + 1), ?_, ?_⟩
    · rw [spansFrom, hbody, ← hstart, ← hstop, ← hcontent, List.nil_append]
    · rw [spansFrom_append, spansFrom_ofText, text_ofText]
      refine forall₂_moves_spansFrom rest (by omega) ?_
      rw [Span.placeholderLength, hcontent]
      omega
  | literal h ih => exact ih
  | @body offset body body' rest h ih =>
    obtain ⟨earlier, later, hspans, hmoves⟩ := ih
    have hstart := h.standsFrom.offset_lt_start
    have hstop := h.standsFrom.stop_lt
    have hlength := h.byteLength_text
    -- The placeholder around and all that comes after it, which the inner spans know nothing of.
    refine ⟨earlier, later ++ ⟨offset + 1, offset + 2 + byteLength body.text, body.text⟩ ::
      rest.spansFrom (offset + 2 + byteLength body.text + 1), ?_, ?_⟩
    · rw [spansFrom, hspans]
      simp
    · rw [spansFrom, ← List.append_assoc]
      refine List.rel_append hmoves (.cons (.around ?_ ?_ rfl ?_) ?_)
      · dsimp only
        omega
      · exact hstop
      · dsimp only
        omega
      · exact forall₂_moves_spansFrom rest (by omega) (by omega)
  | @rest offset body rest rest' h ih =>
    obtain ⟨earlier, later, hspans, hmoves⟩ := ih
    have hstart := h.standsFrom.offset_lt_start
    refine ⟨body.spansFrom (offset + 2) ++
      ⟨offset + 1, offset + 2 + byteLength body.text, body.text⟩ :: earlier, later, ?_, ?_⟩
    · rw [spansFrom, hspans]
      simp
    · rw [spansFrom, List.append_assoc]
      refine List.rel_append (List.forall₂_same.2 fun w hw => ?_) (.cons ?_ hmoves)
      · have := (standsFrom_of_mem hw).stop_lt
        exact .before (standsFrom_of_mem hw).start_lt_stop (by omega)
      · exact .before (by dsimp only; omega) (by dsimp only; omega)

/-- A placeholder that settles for what fills it leaves the value of the template as it is. -/
theorem evaluate {bindings : List Binding} {policy : Policy}
    (h : Settles (fill bindings policy span.content).output span offset t t') :
    t.evaluate bindings policy = ⟨(t'.evaluate bindings policy).output,
      (fill bindings policy span.content).replaced + (t'.evaluate bindings policy).replaced⟩ := by
  generalize hfill : fill bindings policy span.content = filled at h ⊢
  induction h with
  | @here offset body rest hbody hstart hstop hcontent =>
    rw [hcontent] at hfill
    simp [Template.evaluate, evaluate_append, evaluate_of_spansFrom_eq_nil hbody, hfill,
      evaluate_of_spansFrom_eq_nil (spansFrom_ofText filled.output 0)]
  | literal h ih => simp [Template.evaluate, ih]
  | body h ih => simp [Template.evaluate, ih, Nat.add_assoc]
  | rest h ih =>
    simp only [Template.evaluate, ih, Resolution.mk.injEq, true_and]
    omega

/-- A placeholder with no other around it counts for itself only, whatever it settles for. -/
theorem replaced_of_outermost {bindings : List Binding} {policy : Policy}
    (h : Settles value span offset t t') (houter : ∀ w ∈ t.spansFrom offset, ¬ w.Encloses span) :
    (t.evaluate bindings policy).replaced =
      (fill bindings policy span.content).replaced + (t'.evaluate bindings policy).replaced := by
  induction h with
  | here hbody hstart hstop hcontent =>
    simp [Template.evaluate, evaluate_append, evaluate_of_spansFrom_eq_nil hbody, hcontent,
      evaluate_of_spansFrom_eq_nil (spansFrom_ofText value 0)]
  | literal h ih => exact ih houter
  | @body offset body body' rest h ih =>
    have hstart := h.standsFrom.offset_lt_start
    have hstop := h.standsFrom.stop_lt
    refine absurd ⟨?_, hstop⟩ (houter _ (List.mem_append_right _ List.mem_cons_self))
    dsimp only
    omega
  | @rest offset body rest rest' h ih =>
    have hrest := ih fun w hw =>
      houter w (List.mem_append_right _ (List.mem_cons_of_mem _ hw))
    simp only [Template.evaluate, hrest]
    omega

end Settles

/-- Some of the placeholders of a template can be read as literal text. -/
theorem exists_spansFrom_eq {t : Template} {offset : Nat} {spans : List Span}
    (h : spans.Sublist (t.spansFrom offset)) :
    ∃ t' : Template, t'.text = t.text ∧ t'.spansFrom offset = spans := by
  induction t generalizing offset spans with
  | empty => exact ⟨empty, rfl, (List.sublist_nil.1 h).symm⟩
  | literal c rest ih =>
    obtain ⟨rest', htext, hspans⟩ := ih h
    exact ⟨literal c rest', by simp [Template.text, htext], hspans⟩
  | placeholder body rest ihBody ihRest =>
    rw [spansFrom, List.sublist_append_iff] at h
    obtain ⟨inner, outer, rfl, hinner, houter⟩ := h
    obtain ⟨body', hbody, rfl⟩ := ihBody hinner
    rw [List.sublist_cons_iff] at houter
    rcases houter with houter | ⟨outer', rfl, houter⟩
    · -- The outermost placeholder goes: what it holds becomes part of what is around it.
      obtain ⟨rest', hrest, rfl⟩ := ihRest houter
      refine ⟨literal '$' (literal '{' (body' ++ literal '}' rest')), ?_, ?_⟩
      · simp [Template.text, hbody, hrest]
      · simp [spansFrom, spansFrom_append, hbody, Nat.add_assoc]
    · obtain ⟨rest', hrest, rfl⟩ := ihRest houter
      refine ⟨placeholder body' rest', ?_, ?_⟩
      · simp [Template.text, hbody, hrest]
      · simp [spansFrom, hbody]

end Interpolation.Template
