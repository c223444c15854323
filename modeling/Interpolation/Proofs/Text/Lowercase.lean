import Interpolation.Text.Lowercase

/-!
Lowercase forms are stable: lowercasing a second time changes nothing.
-/
namespace Interpolation

namespace CaseRun

def image (run : CaseRun) (code : Nat) : Nat :=
  (code + run.offset).toNat

/-- Codes of the characters that the run is mapped to are codes of characters. -/
def MapsToChars (run : CaseRun) : Prop :=
  0 ≤ run.first + run.offset ∧ run.last + run.offset < 0xD800 ∨
    0xDFFF < run.first + run.offset ∧ run.last + run.offset < 0x110000

instance (run : CaseRun) : Decidable run.MapsToChars :=
  inferInstanceAs (Decidable (_ ∨ _))

/-- Whether what `run` is mapped to begins after `other`, ends before it, or lies in its gaps. -/
def avoids (run other : CaseRun) : Bool :=
  other.last.blt (run.image run.first) || (run.image run.last).blt other.first ||
    (run.first == run.last || run.step % other.step == 0) &&
      (run.image run.first - other.first) % other.step != 0

variable {run other : CaseRun} {c : Char}

theorem contains_iff :
    run.contains c = true ↔
      run.first ≤ c.toNat ∧ c.toNat ≤ run.last ∧ (c.toNat - run.first) % run.step = 0 := by
  simp [contains, and_assoc]

private theorem toNat_ofNat_image (hmaps : run.MapsToChars) (hc : run.contains c = true) :
    (Char.ofNat (run.image c.toNat)).toNat = run.image c.toNat := by
  obtain ⟨hfirst, hlast, -⟩ := contains_iff.1 hc
  have hvalid : (run.image c.toNat).isValidChar := by
    unfold Nat.isValidChar image
    unfold MapsToChars at hmaps
    omega
  rw [Char.ofNat, dif_pos hvalid]
  rfl

/-- Within a run the distances stay. -/
theorem image_eq (hmaps : run.MapsToChars) (hc : run.contains c = true) :
    run.image c.toNat = run.image run.first + (c.toNat - run.first) ∧
      run.image c.toNat ≤ run.image run.last := by
  obtain ⟨hfirst, hlast, -⟩ := contains_iff.1 hc
  unfold image
  unfold MapsToChars at hmaps
  omega

private theorem contains_eq_false_of_avoids (havoids : run.avoids other = true)
    (hmaps : run.MapsToChars) (hc : run.contains c = true) {d : Char}
    (hd : d.toNat = run.image c.toNat) : other.contains d = false := by
  obtain ⟨heq, hle⟩ := image_eq hmaps hc
  obtain ⟨hfirst, hlast, hstep⟩ := contains_iff.1 hc
  rw [Bool.eq_false_iff]
  intro hcontains
  obtain ⟨hfirst', hlast', hstep'⟩ := contains_iff.1 hcontains
  simp only [avoids, Bool.or_eq_true, Bool.and_eq_true, Nat.blt_eq, beq_iff_eq, bne_iff_ne]
    at havoids
  rcases havoids with (hafter | hbefore) | ⟨hspaced, hgap⟩
  · omega
  · omega
  · -- Both distances are multiples of the narrower spacing, hence so is their difference.
    have hdvd : other.step ∣ c.toNat - run.first := by
      rcases hspaced with hsingle | hspaced
      · rw [show c.toNat - run.first = 0 by omega]
        exact Nat.dvd_zero _
      · exact Nat.dvd_trans (Nat.dvd_of_mod_eq_zero hspaced) (Nat.dvd_of_mod_eq_zero hstep)
    by_cases hle' : other.first ≤ run.image run.first
    · have hdiff := Nat.dvd_sub (Nat.dvd_of_mod_eq_zero hstep') hdvd
      rw [show d.toNat - other.first - (c.toNat - run.first) =
        run.image run.first - other.first by omega] at hdiff
      exact hgap (Nat.mod_eq_zero_of_dvd hdiff)
    · exact hgap (by rw [Nat.sub_eq_zero_of_le (by omega), Nat.zero_mod])

end CaseRun

theorem lowercaseRuns_mapsToChars : ∀ run ∈ lowercaseRuns, run.MapsToChars := by
  decide +kernel

/-- The capital I with a dot above, the one letter that is mapped to two characters. -/
def dottedRun : CaseRun :=
  ⟨0x130, 0x130, 1, 0⟩

private theorem lowercaseRuns_avoids :
    lowercaseRuns.all fun run => (dottedRun :: lowercaseRuns).all run.avoids := by
  decide +kernel

/-- A mapped character comes from the dotted letter, from a run, or is the character itself. -/
theorem mem_lowercaseChar_cases {c d : Char} (h : d ∈ lowercaseChar c) :
    c = '\u0130' ∧ (d = 'i' ∨ d = '\u0307') ∨
      (∃ run ∈ lowercaseRuns, run.contains c = true ∧ d.toNat = run.image c.toNat) ∨
        d = c ∧ lowercaseChar c = [c] := by
  unfold lowercaseChar at h
  split at h
  · rename_i hdotted
    rw [List.mem_cons, List.mem_singleton] at h
    exact Or.inl ⟨hdotted, h⟩
  · rename_i hdotted
    right
    split at h
    · rename_i run hfind
      have hrun := List.mem_of_find?_eq_some hfind
      have hc : run.contains c = true := by
        have := List.find?_some hfind
        exact this
      rw [List.mem_singleton] at h
      refine Or.inl ⟨run, hrun, hc, ?_⟩
      rw [h]
      exact CaseRun.toNat_ofNat_image (lowercaseRuns_mapsToChars run hrun) hc
    · rename_i hfind
      refine Or.inr ⟨List.mem_singleton.1 h, ?_⟩
      rw [lowercaseChar, if_neg hdotted, hfind]

/-- What a character is mapped to is mapped to itself. -/
private theorem lowercaseChar_of_mem {c d : Char} (h : d ∈ lowercaseChar c) :
    lowercaseChar d = [d] := by
  rcases mem_lowercaseChar_cases h with ⟨-, rfl | rfl⟩ | ⟨run, hrun, hc, hd⟩ | ⟨rfl, hself⟩
  · decide
  · decide
  · have havoids : ∀ other ∈ dottedRun :: lowercaseRuns, other.contains d = false := by
      intro other hother
      have hrunAvoids := List.all_eq_true.1 lowercaseRuns_avoids run hrun
      exact CaseRun.contains_eq_false_of_avoids (List.all_eq_true.1 hrunAvoids other hother)
        (lowercaseRuns_mapsToChars run hrun) hc hd
    rw [List.forall_mem_cons] at havoids
    have hne : d ≠ '\u0130' := by
      rintro rfl
      exact absurd havoids.1 (by decide)
    have hnone : lowercaseRuns.find? (·.contains d) = none :=
      List.find?_eq_none.2 fun other hother => by simp [havoids.2 other hother]
    rw [lowercaseChar, if_neg hne, hnone]
  · exact hself

namespace Text

/-- Characters that are mapped to themselves stay, whatever stands around them. -/
theorem lowercaseAfter_eq_self {passed t : Text} (h : ∀ c ∈ t, lowercaseChar c = [c]) :
    lowercaseAfter passed t = t := by
  induction t generalizing passed with
  | nil => rfl
  | cons c t ih =>
    rw [List.forall_mem_cons] at h
    have hc : c ≠ 'Σ' := by
      rintro rfl
      exact absurd h.1 (by decide)
    rw [lowercaseAfter, if_neg hc, h.1, ih h.2]
    rfl

theorem lowercaseChar_of_mem_lowercaseAfter {passed t : Text} {d : Char}
    (h : d ∈ lowercaseAfter passed t) : lowercaseChar d = [d] := by
  induction t generalizing passed with
  | nil => simp [lowercaseAfter] at h
  | cons c t ih =>
    rw [lowercaseAfter, List.mem_append] at h
    rcases h with h | h
    · split at h
      · split at h
        · obtain rfl := List.mem_singleton.1 h
          decide
        · obtain rfl := List.mem_singleton.1 h
          decide
      · exact lowercaseChar_of_mem h
    · exact ih h

theorem lowercase_lowercase (t : Text) : t.lowercase.lowercase = t.lowercase :=
  lowercaseAfter_eq_self fun _ => lowercaseChar_of_mem_lowercaseAfter

end Text

theorem lowercaseString_eq_self {s : String} (h : ∀ c ∈ s.toList, lowercaseChar c = [c]) :
    lowercaseString s = s := by
  rw [lowercaseString, Text.lowercase, Text.lowercaseAfter_eq_self h, String.ofList_toList]

theorem lowercaseString_lowercaseString (s : String) :
    lowercaseString (lowercaseString s) = lowercaseString s := by
  unfold lowercaseString
  rw [String.toList_ofList, Text.lowercase_lowercase]

end Interpolation
