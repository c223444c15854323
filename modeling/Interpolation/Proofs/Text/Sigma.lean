import Interpolation.Text.Blank
import Interpolation.Proofs.Text.Lowercase

/-!
Lowercasing and removing the blanks commute but for the capital sigma, whose form depends on what
stands around it.
-/
namespace Interpolation

/-- Whether no range of `s` has a code from `first` to `last`. -/
def CharSet.skips (s : CharSet) (first last : Nat) : Bool :=
  s.all fun r => r.2.blt first || last.blt r.1

private theorem CharSet.contains_eq_false_of_skips {s : CharSet} {first last : Nat} {c : Char}
    (h : s.skips first last = true) (hfirst : first ≤ c.toNat) (hlast : c.toNat ≤ last) :
    s.contains c = false := by
  rw [Bool.eq_false_iff]
  intro hcontains
  obtain ⟨r, hr, hrange⟩ := contains_iff.1 hcontains
  have hskips := List.all_eq_true.1 h r hr
  rw [Bool.or_eq_true, Nat.blt_eq, Nat.blt_eq] at hskips
  omega

/-- Whether neither the run nor what it is mapped to reaches into `s`. -/
def CaseRun.misses (run : CaseRun) (s : CharSet) : Bool :=
  s.skips run.first run.last && s.skips (run.image run.first) (run.image run.last)

private theorem lowercaseRuns_misses_blanks : lowercaseRuns.all (·.misses blanks) := by
  decide +kernel

/-- A mapping keeps blank characters and makes no others. -/
private theorem isBlank_of_mem_lowercaseChar {c d : Char} (h : d ∈ lowercaseChar c) :
    isBlank d = isBlank c := by
  rcases mem_lowercaseChar_cases h with ⟨rfl, rfl | rfl⟩ | ⟨run, hrun, hc, hd⟩ | ⟨rfl, -⟩
  · decide
  · decide
  · have hmisses := List.all_eq_true.1 lowercaseRuns_misses_blanks run hrun
    rw [CaseRun.misses, Bool.and_eq_true] at hmisses
    obtain ⟨hfirst, hlast, -⟩ := CaseRun.contains_iff.1 hc
    obtain ⟨himage, hle⟩ := CaseRun.image_eq (lowercaseRuns_mapsToChars run hrun) hc
    have hcBlank : isBlank c = false := CharSet.contains_eq_false_of_skips hmisses.1 hfirst hlast
    have hdBlank : isBlank d = false :=
      CharSet.contains_eq_false_of_skips hmisses.2 (by omega) (by omega)
    rw [hcBlank, hdBlank]
  · rfl

/-- Whether a capital sigma between `before` and `after` ends a word. -/
def endsWord (before after : Text) : Bool :=
  meetsCased before.reverse && !meetsCased after

namespace Text

/-- The small sigma for the end of a word, or the other one. -/
def smallSigma (ends : Bool) : Char :=
  if ends then 'ς' else 'σ'

private theorem smallSigma_inj {a b : Bool} : smallSigma a = smallSigma b ↔ a = b := by
  cases a <;> cases b <;> decide

private theorem isBlank_smallSigma (ends : Bool) : isBlank (smallSigma ends) = false := by
  cases ends <;> decide

/-- Without the blank characters every capital sigma ends a word that ended one before, and no
other. -/
def SigmasSteady (t : Text) : Prop :=
  ∀ before after : Text, t = before ++ 'Σ' :: after →
    endsWord before after = endsWord before.squeeze after.squeeze

private theorem squeeze_lowercaseChar_of_isBlank {c : Char} (hc : isBlank c = true) :
    squeeze (lowercaseChar c) = [] := by
  rw [squeeze, List.filter_eq_nil_iff]
  intro d hd
  rw [isBlank_of_mem_lowercaseChar hd, hc]
  decide

private theorem squeeze_lowercaseChar_of_not_isBlank {c : Char} (hc : isBlank c = false) :
    squeeze (lowercaseChar c) = lowercaseChar c := by
  rw [squeeze_eq_self_iff]
  intro d hd
  rw [isBlank_of_mem_lowercaseChar hd, hc]

theorem lowercaseAfter_sigma (passed rest : Text) :
    lowercaseAfter passed ('Σ' :: rest) =
      smallSigma (endsWord passed.reverse rest) :: lowercaseAfter ('Σ' :: passed) rest := by
  rw [lowercaseAfter, if_pos rfl, smallSigma, endsWord, List.reverse_reverse]
  split <;> rfl

theorem lowercaseAfter_of_ne {c : Char} (hc : c ≠ 'Σ') (passed rest : Text) :
    lowercaseAfter passed (c :: rest) = lowercaseChar c ++ lowercaseAfter (c :: passed) rest := by
  rw [lowercaseAfter, if_neg hc]

private theorem forall_cons_eq_append_cons {c d : Char} {t : Text} {P : Text → Text → Prop} :
    (∀ before after, c :: t = before ++ d :: after → P before after) ↔
      (c = d → P [] t) ∧ ∀ before after, t = before ++ d :: after → P (c :: before) after := by
  constructor
  · intro h
    refine ⟨?_, ?_⟩
    · rintro rfl
      exact h [] t rfl
    · rintro before after rfl
      exact h (c :: before) after rfl
  · rintro ⟨hhead, htail⟩ before after ht
    rcases List.cons_eq_append_iff.1 ht with ⟨rfl, ht⟩ | ⟨before, rfl, rfl⟩
    · obtain ⟨rfl, rfl⟩ := List.cons.inj ht
      exact hhead rfl
    · exact htail before after rfl

/-- What stands before grows with the recursion: `passed`, reversed, and then the leading part. -/
theorem squeeze_lowercaseAfter_eq_iff {passed t : Text} :
    squeeze (lowercaseAfter passed t) = lowercaseAfter (squeeze passed) (squeeze t) ↔
      ∀ before after : Text, t = before ++ 'Σ' :: after →
        endsWord (passed.reverse ++ before) after =
          endsWord (squeeze (passed.reverse ++ before)) (squeeze after) := by
  induction t generalizing passed with
  | nil => simp [lowercaseAfter, squeeze]
  | cons c t ih =>
    have hpassed : ∀ before, passed.reverse ++ c :: before = (c :: passed).reverse ++ before := by
      simp
    rw [forall_cons_eq_append_cons]
    simp only [hpassed]
    rw [← ih]
    -- Only a sigma looks at its neighbours. All else is mapped alike wherever it stands.
    by_cases hsigma : c = 'Σ'
    · subst hsigma
      have hblank : isBlank 'Σ' = false := by decide
      rw [lowercaseAfter_sigma, squeeze_cons_of_not_isBlank (isBlank_smallSigma _),
        squeeze_cons_of_not_isBlank hblank, squeeze_cons_of_not_isBlank hblank,
        lowercaseAfter_sigma, List.cons.injEq, smallSigma_inj, List.append_nil, squeeze_reverse]
      simp
    · rw [lowercaseAfter_of_ne hsigma, squeeze_append]
      cases hc : isBlank c with
      | true =>
        rw [squeeze_lowercaseChar_of_isBlank hc, squeeze_cons_of_isBlank hc,
          squeeze_cons_of_isBlank hc]
        simp [hsigma]
      | false =>
        rw [squeeze_lowercaseChar_of_not_isBlank hc, squeeze_cons_of_not_isBlank hc,
          squeeze_cons_of_not_isBlank hc, lowercaseAfter_of_ne hsigma, List.append_cancel_left_eq]
        simp [hsigma]

/-- Lowercasing and the removal of blanks commute exactly where every capital sigma keeps its
form. -/
theorem squeeze_lowercase_eq_iff {t : Text} :
    t.lowercase.squeeze = t.squeeze.lowercase ↔ t.SigmasSteady :=
  squeeze_lowercaseAfter_eq_iff

instance (t : Text) : Decidable t.SigmasSteady :=
  decidable_of_iff _ squeeze_lowercase_eq_iff

/-- Without its blanks a lowercase form is one still. -/
theorem lowercase_squeeze_lowercase (t : Text) :
    t.lowercase.squeeze.lowercase = t.lowercase.squeeze := by
  apply lowercaseAfter_eq_self
  intro c hc
  exact lowercaseChar_of_mem_lowercaseAfter (List.mem_filter.1 hc).1

theorem sigmasSteady_of_not_mem {t : Text} (h : 'Σ' ∉ t) : t.SigmasSteady := by
  rintro before after rfl
  exact absurd (by simp) h

theorem sigmasSteady_of_squeeze_eq {t : Text} (h : t.squeeze = t) : t.SigmasSteady := by
  rintro before after rfl
  rw [squeeze_eq_self_iff, List.forall_mem_append, List.forall_mem_cons] at h
  rw [squeeze_eq_self_iff.2 h.1, squeeze_eq_self_iff.2 h.2.2]

end Text

end Interpolation
