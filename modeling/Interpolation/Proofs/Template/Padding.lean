import Interpolation.Template.Evaluate
import Interpolation.Proofs.Template.Joining

/-!
Blank characters in templates change no placeholder and no choice of a binding.
-/
namespace Interpolation

open Text

section

variable {bindings : List Binding} {policy : Policy} {content content' : Text}

private theorem Binding.accepts_eq_of_squeeze (b : Binding)
    (h : content'.squeeze = content.squeeze) : b.accepts content' = b.accepts content := by
  unfold accepts
  rw [h]

theorem firstAccepting_eq_of_squeeze (h : content'.squeeze = content.squeeze) :
    firstAccepting bindings content' = firstAccepting bindings content := by
  unfold firstAccepting
  congr 1
  funext b
  exact b.accepts_eq_of_squeeze h

namespace Template

private theorem replaced_fill_of_squeeze (h : content'.squeeze = content.squeeze) :
    (fill bindings policy content').replaced = (fill bindings policy content).replaced := by
  unfold fill
  rw [firstAccepting_eq_of_squeeze h]
  split <;> rfl

private theorem squeeze_fill_of_squeeze (h : content'.squeeze = content.squeeze) :
    (fill bindings policy content').output.squeeze =
      (fill bindings policy content).output.squeeze := by
  unfold fill
  rw [firstAccepting_eq_of_squeeze h]
  split
  · rfl
  · have hcontent := congrArg (fun s => squeeze ['$', '{'] ++ s ++ squeeze ['}']) h
    rwa [← squeeze_append, ← squeeze_append, ← squeeze_append, ← squeeze_append] at hcontent
  · rfl

private theorem fill_delete_of_squeeze (h : content'.squeeze = content.squeeze) :
    fill bindings .delete content' = fill bindings .delete content := by
  unfold fill
  rw [firstAccepting_eq_of_squeeze h]
  cases firstAccepting bindings content <;> rfl

end Template

end

namespace Template

/-- The second template is the first with blank characters put into placeholders, and into other
places too if `outside` is set. -/
inductive Padded : Bool → Template → Template → Prop
  | empty {outside : Bool} : Padded outside empty empty
  | blank {c : Char} {s t : Template} (hblank : isBlank c = true) (h : Padded true s t) :
    Padded true s (literal c t)
  | literal {outside : Bool} {c : Char} {s t : Template} (h : Padded outside s t) :
    Padded outside (literal c s) (literal c t)
  | placeholder {outside : Bool} {body body' s t : Template} (hbody : Padded true body body')
    (h : Padded outside s t) : Padded outside (placeholder body s) (placeholder body' t)

namespace Padded

variable {outside : Bool} {s t : Template}

theorem refl (outside : Bool) (t : Template) : Padded outside t t := by
  induction t generalizing outside with
  | empty => exact .empty
  | literal c rest ih => exact .literal (ih outside)
  | placeholder body rest ihBody ih => exact .placeholder (ihBody true) (ih outside)

theorem squeeze_evaluate (h : Padded outside s t) (bindings : List Binding) (policy : Policy) :
    (t.evaluate bindings policy).output.squeeze = (s.evaluate bindings policy).output.squeeze := by
  induction h with
  | empty => rfl
  | blank hblank h ih =>
    rw [evaluate, squeeze_cons_of_isBlank hblank, ih]
  | @literal outside c s t h ih =>
    rw [evaluate, evaluate, ← List.singleton_append, squeeze_append, ih, ← squeeze_append,
      List.singleton_append]
  | placeholder hbody h ihBody ih =>
    rw [evaluate, evaluate, squeeze_append, squeeze_append, squeeze_fill_of_squeeze ihBody, ih]

theorem replaced_evaluate (h : Padded outside s t) (bindings : List Binding) (policy : Policy) :
    (t.evaluate bindings policy).replaced = (s.evaluate bindings policy).replaced := by
  induction h with
  | empty => rfl
  | blank hblank h ih => exact ih
  | literal h ih => exact ih
  | placeholder hbody h ihBody ih =>
    have hcontent := hbody.squeeze_evaluate bindings policy
    rw [evaluate, evaluate, ihBody, replaced_fill_of_squeeze hcontent, ih]

/-- A placeholder that goes takes the blank characters in it along, and so does one that is
replaced. -/
theorem evaluate_delete (h : Padded false s t) (bindings : List Binding) :
    t.evaluate bindings .delete = s.evaluate bindings .delete := by
  generalize ho : false = outside at h
  induction h with
  | empty => rfl
  | blank hblank h ih => cases ho
  | literal h ih => rw [evaluate, evaluate, ih ho]
  | placeholder hbody h ihBody ih =>
    have hcontent := hbody.squeeze_evaluate bindings .delete
    rw [evaluate, evaluate, hbody.replaced_evaluate, fill_delete_of_squeeze hcontent, ih ho]

end Padded

private theorem ne_of_isBlank {c : Char} (h : isBlank c = true) : c ≠ '$' ∧ c ≠ '{' ∧ c ≠ '}' := by
  refine ⟨?_, ?_, ?_⟩ <;> rintro rfl <;> exact absurd h (by decide)

/-- Where a cut of the text of a placeholder, and of what follows it, can fall. -/
private theorem cut_cases {body rest : Template} {before after : Text}
    (h : (placeholder body rest).text = before ++ after) :
    before = [] ∨ SplitsOpening before after ∨
      (∃ front back, before = '$' :: '{' :: front ∧ body.text = front ++ back ∧
        after = back ++ '}' :: rest.text) ∨
      ∃ front, before = '$' :: '{' :: body.text ++ '}' :: front ∧ rest.text = front ++ after := by
  rw [text_placeholder] at h
  rcases before with _ | ⟨d, _ | ⟨e, inside⟩⟩
  · exact .inl rfl
  · obtain ⟨rfl, rfl⟩ := List.cons.inj h
    exact .inr (.inl ⟨List.suffix_rfl, body.text ++ '}' :: rest.text, rfl⟩)
  · rw [List.cons_append, List.cons_append, List.cons.injEq, List.cons.injEq] at h
    obtain ⟨rfl, rfl, h⟩ := h
    rcases cases_of_prefix_append_cons ⟨after, h.symm⟩ with ⟨back, hback⟩ | ⟨front, rfl, -⟩
    · rw [← hback, List.append_assoc, List.append_cancel_left_eq] at h
      exact .inr (.inr (.inl ⟨inside, back, rfl, hback.symm, h.symm⟩))
    · rw [List.append_assoc, List.append_cancel_left_eq, List.cons_append, List.cons.injEq] at h
      exact .inr (.inr (.inr ⟨front, rfl, h.2⟩))

/-- A placeholder that reaches over the closing brace of another one in front of it begins after
that. -/
private theorem mem_spansFrom_of_le_stop {body rest : Template} {offset : Nat} {span : Span}
    (hs : span ∈ (placeholder body rest).spansFrom offset)
    (hstop : offset + 2 + byteLength body.text + 1 ≤ span.stop) :
    span ∈ rest.spansFrom (offset + 2 + byteLength body.text + 1) := by
  rw [spansFrom, List.mem_append, List.mem_cons] at hs
  rcases hs with hs | rfl | hs
  · have hbody := (standsFrom_of_mem hs).stop_lt
    omega
  · dsimp only at hstop
    omega
  · exact hs

namespace Canonical

variable {unclosed stray outside : Bool} {t : Template} {offset : Nat} {before after : Text}
  {c : Char}

private theorem exists_padded_nil (h : t.Canonical unclosed stray) (htext : t.text = [] ++ after)
    (hblank : isBlank c = true)
    (hinside : outside = false → ∃ span ∈ t.spansFrom offset,
      span.start < offset + byteLength [] ∧ offset + byteLength [] ≤ span.stop) :
    ∃ t', Padded outside t t' ∧ t'.text = [] ++ c :: after ∧ t'.Canonical unclosed stray := by
  obtain ⟨hdollar, -, hclose⟩ := ne_of_isBlank hblank
  cases outside with
  | false =>
    obtain ⟨span, hs, hstart, -⟩ := hinside rfl
    have hstart' := (standsFrom_of_mem hs).offset_lt_start
    exact absurd hstart' (Nat.not_lt_of_lt hstart)
  | true =>
    refine ⟨.literal c t, .blank hblank (.refl true t), ?_, ?_⟩
    · rw [text, htext, List.nil_append, List.nil_append]
    · exact .literal hclose (fun hc => absurd hc hdollar) h

/-- A blank character can be put into the text of a canonical template wherever it does not come
between a `$` and a `{`; in a placeholder it has to be, unless it may stand outside of them. -/
theorem exists_padded (h : t.Canonical unclosed stray) (htext : t.text = before ++ after)
    (hseam : ¬ SplitsOpening before after) (hblank : isBlank c = true)
    (hinside : outside = false → ∃ span ∈ t.spansFrom offset,
      span.start < offset + byteLength before ∧ offset + byteLength before ≤ span.stop) :
    ∃ t', Padded outside t t' ∧ t'.text = before ++ c :: after ∧ t'.Canonical unclosed stray := by
  induction h generalizing outside offset before after with
  | empty =>
    cases before with
    | nil => exact exists_padded_nil .empty htext hblank hinside
    | cons e front => cases htext
  | @literal unclosed stray d rest hclose hopen h ih =>
    cases before with
    | nil => exact exists_padded_nil (.literal hclose hopen h) htext hblank hinside
    | cons e front =>
      obtain ⟨rfl, hrest⟩ := List.cons.inj htext
      have hseam' := not_splitsOpening_of_suffix hseam (List.suffix_cons d front)
      simp only [spansFrom, byteLength_cons, ← Nat.add_assoc] at hinside
      obtain ⟨rest', hpadded, htext', hcanonical⟩ := ih hrest hseam' hinside
      refine ⟨.literal d rest', .literal hpadded, by rw [text, htext', List.cons_append],
        .literal hclose (fun hd tail htail => ?_) hcanonical⟩
      -- What follows a `$` begins as before, or else with the blank character.
      rw [htail, text] at htext'
      cases front with
      | nil => exact (ne_of_isBlank hblank).2.1 (List.cons.inj htext').1.symm
      | cons e front =>
        obtain ⟨rfl, -⟩ := List.cons.inj htext'
        exact text_ne_opening (hopen hd) _ hrest
  | @opening stray rest h ih =>
    rcases before with _ | ⟨e, _ | ⟨e', front⟩⟩
    · exact exists_padded_nil (.opening h) htext hblank hinside
    · obtain ⟨rfl, rfl⟩ := List.cons.inj htext
      exact absurd ⟨List.suffix_rfl, rest.text, rfl⟩ hseam
    · obtain ⟨rfl, hopening⟩ := List.cons.inj htext
      obtain ⟨rfl, hrest⟩ := List.cons.inj hopening
      have hseam' : ¬ SplitsOpening front after :=
        not_splitsOpening_of_suffix hseam ⟨['$', '{'], rfl⟩
      simp only [spansFrom, byteLength_cons, ← Nat.add_assoc] at hinside
      obtain ⟨rest', hpadded, htext', hcanonical⟩ := ih hrest hseam' hinside
      exact ⟨.literal '$' (.literal '{' rest'), .literal (.literal hpadded),
        by rw [text, text, htext', List.cons_append, List.cons_append], .opening hcanonical⟩
  | @closing unclosed rest h ih =>
    cases before with
    | nil => exact exists_padded_nil (.closing h) htext hblank hinside
    | cons e front =>
      obtain ⟨rfl, hrest⟩ := List.cons.inj htext
      have hseam' := not_splitsOpening_of_suffix hseam (List.suffix_cons '}' front)
      simp only [spansFrom, byteLength_cons, ← Nat.add_assoc] at hinside
      obtain ⟨rest', hpadded, htext', hcanonical⟩ := ih hrest hseam' hinside
      exact ⟨.literal '}' rest', .literal hpadded, by rw [text, htext', List.cons_append],
        .closing hcanonical⟩
  | @placeholder unclosed stray body rest hbody h ihBody ih =>
    rcases cut_cases htext with
      rfl | hsplits | ⟨front, back, rfl, hbody', rfl⟩ | ⟨front, rfl, hrest⟩
    · exact exists_padded_nil (.placeholder hbody h) htext hblank hinside
    · exact absurd hsplits hseam
    · -- The place is in this placeholder, so what lies around it does not matter.
      have hseam' : ¬ SplitsOpening front back :=
        fun hf => hseam (hf.mono ⟨['$', '{'], rfl⟩ (List.prefix_append back _))
      have hinside' : true = false → ∃ span ∈ body.spansFrom offset,
          span.start < offset + byteLength front ∧ offset + byteLength front ≤ span.stop :=
        fun ho => absurd ho.symm Bool.false_ne_true
      obtain ⟨body', hpadded, htext', hcanonical⟩ := ihBody hbody' hseam' hinside'
      refine ⟨.placeholder body' rest, .placeholder hpadded (.refl outside rest), ?_,
        .placeholder hcanonical h⟩
      simp [text_placeholder, htext']
    · have hsuffix : front <:+ '$' :: '{' :: body.text ++ '}' :: front :=
        ⟨'$' :: '{' :: body.text ++ ['}'], by simp⟩
      have hseam' := not_splitsOpening_of_suffix hseam hsuffix
      have hlength : offset + byteLength ('$' :: '{' :: body.text ++ '}' :: front) =
          offset + 2 + byteLength body.text + 1 + byteLength front := by
        simp
        omega
      rw [hlength] at hinside
      obtain ⟨rest', hpadded, htext', hcanonical⟩ := ih hrest hseam' fun ho => by
        obtain ⟨span, hs, hstart, hstop⟩ := hinside ho
        exact ⟨span, mem_spansFrom_of_le_stop hs (by omega), hstart, hstop⟩
      refine ⟨.placeholder body rest', .placeholder (.refl true body) hpadded, ?_,
        .placeholder hbody hcanonical⟩
      simp [text_placeholder, htext']

end Canonical

end Template

end Interpolation
