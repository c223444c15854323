import Mathlib.Order.Interval.Finset.Nat
import Interpolation.Proofs.Span.Braces

/-!
How the whole placeholders of a text lie to each other, from their dollar signs on.
-/
namespace Interpolation

namespace Span

/-- The offsets of the bytes of the whole placeholder. -/
def bytes (s : Span) : Finset Nat :=
  Finset.Icc (s.start - 1) s.stop

/-- The offsets of the bytes between the braces. -/
def inside (s : Span) : Finset Nat :=
  Finset.Ioo s.start s.stop

/-- `a` closes before `b`, inside it or in front of it, with room for a dollar sign between their
opening braces or between `a` and the opening brace of `b`. -/
def ClosesBefore (a b : Span) : Prop :=
  a.stop < b.stop ∧ (b.Encloses a ∧ b.start < a.start - 1 ∨ a.stop < b.start - 1)

namespace ClosesBefore

variable {a b : Span}

theorem bytes_subset_or_disjoint (h : a.ClosesBefore b) :
    a.bytes ⊆ b.inside ∨ Disjoint a.bytes b.bytes := by
  obtain ⟨hstop, ⟨-, hstart⟩ | hbefore⟩ := h
  · left
    intro offset hoffset
    simp only [bytes, inside, Finset.mem_Icc, Finset.mem_Ioo] at hoffset ⊢
    omega
  · right
    rw [Finset.disjoint_left]
    intro offset ha hb
    simp only [bytes, Finset.mem_Icc] at ha hb
    omega

private theorem start_ne (h : a.ClosesBefore b) (ha : a.start < a.stop) : a.start ≠ b.start := by
  obtain ⟨-, ⟨hencloses, -⟩ | hbefore⟩ := h
  · exact Nat.ne_of_gt hencloses.1
  · omega

end ClosesBefore

end Span

variable {text : Text}

theorem closesBefore_scan (text : Text) : (scan text).Pairwise Span.ClosesBefore := by
  rw [← Template.spans_parse]
  apply (Template.spansFrom_pairwise (Template.parse text) 0).imp_of_mem
  rintro a b - - ⟨hstop, hnested | hbefore⟩
  · have hstart : b.start < a.start - 1 := by omega
    exact ⟨hstop, Or.inl ⟨⟨by omega, hstop⟩, hstart⟩⟩
  · exact ⟨hstop, Or.inr (by omega)⟩

private theorem start_lt_stop_of_mem_scan {span : Span} (hs : span ∈ scan text) :
    1 ≤ span.start ∧ span.start < span.stop := by
  have hstands := standsFrom_of_mem_scan hs
  exact ⟨hstands.offset_lt_start, hstands.start_lt_stop⟩

theorem nodup_map_start_scan (text : Text) : ((scan text).map Span.start).Nodup := by
  rw [List.Nodup, List.pairwise_map]
  apply (closesBefore_scan text).imp_of_mem
  intro a b ha _ h
  exact h.start_ne (start_lt_stop_of_mem_scan ha).2

/-- The placeholders of a text come in the order of their closing braces. Of any two the later one
holds the whole earlier one between its braces or has no byte in common with it, and no two open or
close at one brace. -/
theorem scan_laminar (text : Text) :
    (scan text).Pairwise (fun a b =>
      a.stop < b.stop ∧ (b.Encloses a ∧ b.start < a.start - 1 ∨ a.stop < b.start - 1)) ∧
    (scan text).Pairwise (fun a b => a.bytes ⊆ b.inside ∨ Disjoint a.bytes b.bytes) ∧
    ((scan text).map Span.start).Nodup ∧ ((scan text).map Span.stop).Nodup ∧
    ∀ span ∈ scan text, 1 ≤ span.start ∧ span.start < span.stop := by
  refine ⟨closesBefore_scan text, ?_, nodup_map_start_scan text, nodup_map_stop_scan text, ?_⟩
  · apply (closesBefore_scan text).imp
    intro a b h
    exact h.bytes_subset_or_disjoint
  · intro span hs
    exact start_lt_stop_of_mem_scan hs

end Interpolation
