import Mathlib.Data.List.Infix
import Interpolation.Proofs.Template.Canonical

/-!
Balance of openings and closing braces, counted in texts.
-/
namespace Interpolation

namespace Text

/-- The number of openings, each a `{` right after a `$`. -/
def openers : Text → Nat
  | [] => 0
  | '$' :: '{' :: rest => openers rest + 1
  | _ :: rest => openers rest

/-- Nowhere have more placeholders been closed than opened, and in the end as many have. -/
structure Balanced (t : Text) : Prop where
  leading : ∀ p, p <+: t → p.count '}' ≤ openers p
  whole : t.count '}' = openers t

private theorem openers_cons {c : Char} {t : Text} (h : c = '$' → ∀ tail, t ≠ '{' :: tail) :
    openers (c :: t) = openers t := by
  rw [openers]
  exact fun tail hc ht => h hc tail ht

private theorem openers_append_closing (s t : Text) :
    openers (s ++ '}' :: t) = openers s + openers t := by
  fun_induction openers s with
  | case1 => simp [openers]
  | case2 s ih =>
    rw [List.cons_append, List.cons_append, openers, ih]
    omega
  | case3 c s h ih =>
    rw [List.cons_append, openers_cons, ih]
    exact fun hc => append_ne_opening (fun tail hs => h tail hc hs) (by simp)

private theorem openers_le_cons (c : Char) (t : Text) : openers t ≤ openers (c :: t) := by
  by_cases h : c = '$' ∧ ∃ tail, t = '{' :: tail
  · obtain ⟨rfl, tail, rfl⟩ := h
    rw [openers_cons (by simp), openers]
    omega
  · rw [openers_cons fun hc tail ht => h ⟨hc, tail, ht⟩]

private theorem count_opening (t : Text) : ('$' :: '{' :: t).count '}' = t.count '}' := by
  rw [List.count_cons_of_ne (by decide), List.count_cons_of_ne (by decide)]

theorem cases_of_prefix_append_cons {p s t : Text} {c : Char} (h : p <+: s ++ c :: t) :
    p <+: s ∨ ∃ q, p = s ++ c :: q ∧ q <+: t := by
  rcases List.prefix_or_prefix_of_prefix h (List.prefix_append s (c :: t)) with hp | ⟨r, rfl⟩
  · exact .inl hp
  · rw [List.prefix_append_right_inj, List.prefix_cons_iff] at h
    rcases h with rfl | ⟨q, rfl, hq⟩
    · exact .inl (by simp)
    · exact .inr ⟨q, rfl, hq⟩

/-- An opening in front leaves room for one closing brace more. -/
private theorem count_le_openers_of_opening {t : Text}
    (h : ∀ p, p <+: t → p.count '}' ≤ openers p + 1) :
    ∀ p, p <+: '$' :: '{' :: t → p.count '}' ≤ openers p := by
  intro p hp
  rcases List.prefix_cons_iff.1 hp with rfl | ⟨q, rfl, hq⟩
  · simp
  rcases List.prefix_cons_iff.1 hq with rfl | ⟨r, rfl, hr⟩
  · simp
  · rw [count_opening, openers]
    exact h r hr

end Text

open Text

namespace Template

private theorem openers_text_placeholder (body rest : Template) :
    openers (placeholder body rest).text = openers body.text + openers rest.text + 1 := by
  rw [text_placeholder, openers, openers_append_closing]

private theorem count_text_placeholder (body rest : Template) :
    (placeholder body rest).text.count '}' = body.text.count '}' + rest.text.count '}' + 1 := by
  rw [text_placeholder, count_opening, List.count_append, List.count_cons_self, Nat.add_assoc]

namespace Canonical

variable {unclosed stray : Bool} {t : Template}

/-- Without stray closing braces, no more is ever closed than has been opened. -/
private theorem count_le_openers (h : t.Canonical unclosed false) :
    ∀ p, p <+: t.text → p.count '}' ≤ openers p := by
  generalize hs : false = stray at h
  induction h with
  | empty =>
    intro p hp
    rw [text, List.prefix_nil] at hp
    simp [hp]
  | @literal unclosed stray c rest hclose hopen h ih =>
    intro p hp
    rcases List.prefix_cons_iff.1 hp with rfl | ⟨q, rfl, hq⟩
    · simp
    · rw [List.count_cons_of_ne hclose]
      exact Nat.le_trans (ih hs q hq) (openers_le_cons c q)
  | @opening stray rest h ih =>
    exact count_le_openers_of_opening fun p hp => Nat.le_succ_of_le (ih rfl p hp)
  | closing h => cases hs
  | @placeholder unclosed stray body rest hbody h ihBody ih =>
    refine count_le_openers_of_opening (t := body.text ++ '}' :: rest.text) fun p hp => ?_
    rcases cases_of_prefix_append_cons hp with hp | ⟨q, rfl, hq⟩
    · exact Nat.le_succ_of_le (ihBody rfl p hp)
    · have hinner := ihBody rfl body.text List.prefix_rfl
      have hafter := ih hs q hq
      rw [List.count_append, List.count_cons_self, openers_append_closing]
      omega

private theorem openers_le_count (h : t.Canonical false stray) :
    openers t.text ≤ t.text.count '}' := by
  generalize hu : false = unclosed at h
  induction h with
  | empty => simp [text, openers]
  | @literal unclosed stray c rest hclose hopen h ih =>
    rw [text, openers_cons fun hc => text_ne_opening (hopen hc), List.count_cons_of_ne hclose]
    exact ih hu
  | opening h => cases hu
  | @closing unclosed rest h ih =>
    have hrest := ih hu
    rw [text, openers_cons (by simp), List.count_cons_self]
    omega
  | @placeholder unclosed stray body rest hbody h ihBody ih =>
    have hinner := ihBody rfl
    have hrest := ih hu
    rw [openers_text_placeholder, count_text_placeholder]
    omega

theorem balanced_text (h : t.Canonical false false) : t.text.Balanced where
  leading := h.count_le_openers
  whole := Nat.le_antisymm (h.count_le_openers t.text List.prefix_rfl) h.openers_le_count

private theorem not_stray (h : t.Canonical unclosed stray)
    (hle : ∀ p, p <+: t.text → p.count '}' ≤ openers p) : t.Canonical unclosed false := by
  induction h with
  | empty => exact .empty
  | @literal unclosed stray c rest hclose hopen h ih =>
    refine .literal hclose hopen (ih fun p hp => ?_)
    have hcount := hle (c :: p) (List.cons_prefix_cons.2 ⟨rfl, hp⟩)
    rwa [List.count_cons_of_ne hclose, openers_cons] at hcount
    rintro hc tail rfl
    obtain ⟨more, hmore⟩ := hp
    exact text_ne_opening (hopen hc) (tail ++ more) hmore.symm
  | opening h => exact .opening h
  | @closing unclosed rest h ih =>
    -- This brace alone would close more than has been opened.
    have hcount := hle ['}'] (List.cons_prefix_cons.2 ⟨rfl, List.nil_prefix⟩)
    exact absurd hcount (by decide)
  | @placeholder unclosed stray body rest hbody h ihBody ih =>
    refine .placeholder hbody (ih fun p hp => ?_)
    have hcount := hle ('$' :: '{' :: (body.text ++ '}' :: p)) ?_
    · have hinner := hbody.openers_le_count
      rw [count_opening, List.count_append, List.count_cons_self, openers,
        openers_append_closing] at hcount
      omega
    · rw [text_placeholder, List.cons_prefix_cons, List.cons_prefix_cons,
        List.prefix_append_right_inj, List.cons_prefix_cons]
      exact ⟨rfl, rfl, rfl, hp⟩

private theorem not_unclosed (h : t.Canonical unclosed false)
    (hle : openers t.text ≤ t.text.count '}') : t.Canonical false false := by
  generalize hs : false = stray at h
  induction h with
  | empty => exact .empty
  | @literal unclosed stray c rest hclose hopen h ih =>
    rw [text, openers_cons fun hc => text_ne_opening (hopen hc), List.count_cons_of_ne hclose]
      at hle
    exact .literal hclose hopen (ih hle hs)
  | @opening stray rest h ih =>
    -- No brace is left for this opening: those that follow belong to later ones.
    have hrest := h.count_le_openers rest.text List.prefix_rfl
    rw [text, text, openers, count_opening] at hle
    omega
  | closing h => cases hs
  | @placeholder unclosed stray body rest hbody h ihBody ih =>
    have hinner := hbody.count_le_openers body.text List.prefix_rfl
    rw [openers_text_placeholder, count_text_placeholder] at hle
    exact .placeholder hbody (ih (by omega) hs)

theorem closed_of_balanced (h : t.Canonical true true) (hb : t.text.Balanced) :
    t.Canonical false false :=
  (h.not_stray hb.leading).not_unclosed (Nat.le_of_eq hb.whole.symm)

end Canonical

theorem Canonical.balanced_content {unclosed stray : Bool} {t : Template} {offset : Nat}
    {span : Span} (h : t.Canonical unclosed stray) (hs : span ∈ t.spansFrom offset) :
    span.content.Balanced := by
  induction h generalizing offset with
  | empty => simp [spansFrom] at hs
  | literal hclose hopen h ih => exact ih hs
  | opening h ih => exact ih hs
  | closing h ih => exact ih hs
  | placeholder hbody h ihBody ih =>
    simp only [spansFrom, List.mem_append, List.mem_cons] at hs
    rcases hs with hs | rfl | hs
    · exact ihBody hs
    · exact hbody.balanced_text
    · exact ih hs

end Template

end Interpolation
