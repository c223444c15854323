import Mathlib.Data.Prod.Lex
import Interpolation.Proofs.Reordering
import Interpolation.Proofs.Span.Laminar
import Interpolation.Proofs.Span.Nesting

/-!
Resolution order is a stable sort, and the same from any order of the placeholders of a text.
-/
namespace Interpolation

namespace Span

/-- What resolution order goes by: the number of characters of the content, then the start. -/
def rank (s : Span) : Nat ×ₗ Nat :=
  toLex (s.content.length, s.start)

private theorem le_iff_rank_le {a b : Span} : a.le b = true ↔ a.rank ≤ b.rank := by
  rw [le_iff, rank, rank, Prod.Lex.toLex_le_toLex]

end Span

theorem order_pairwise_rank (spans : List Span) :
    (order spans).Pairwise fun a b => a.rank ≤ b.rank := by
  apply (order_pairwise spans).imp
  intro a b hab
  exact Span.le_iff_rank_le.1 hab

private theorem reorders_order (spans : List Span) : Reorders Span.rank spans (order spans) := by
  apply reorders_mergeSort Span.le_trans Span.le_total
  intro a b hab
  exact Span.le_iff_rank_le.2 (le_of_eq hab)

private theorem eq_of_start_eq {text : Text} {a b : Span} (ha : a ∈ scan text) (hb : b ∈ scan text)
    (hstart : a.start = b.start) : a = b :=
  List.inj_on_of_nodup_map (nodup_map_start_scan text) ha hb hstart

theorem order_eq_order_scan {text : Text} {spans : List Span} (h : spans.Perm (scan text)) :
    order spans = order (scan text) := by
  have hperm := order_perm (scan text)
  apply order_eq_of_perm (h.trans hperm.symm) (order_pairwise (scan text))
  intro a ha b hb hstart
  exact eq_of_start_eq (hperm.mem_iff.1 ha) (hperm.mem_iff.1 hb) hstart

/-- Resolution order is the stable sort by the length of the content in characters, then the start.
The placeholders of a text come to the same list from any order. -/
theorem order_stable :
    (∀ spans : List Span, (order spans).Perm spans ∧
      (order spans).Pairwise (fun a b => a.rank ≤ b.rank) ∧
      Reorders Span.rank spans (order spans)) ∧
    ∀ (text : Text) (spans : List Span), spans.Perm (scan text) →
      order spans = order (scan text) := by
  constructor
  · intro spans
    exact ⟨order_perm spans, order_pairwise_rank spans, reorders_order spans⟩
  · intro text spans h
    exact order_eq_order_scan h

/-- Two of the contents have as many characters as each other, and the one with fewer bytes comes
later. -/
theorem order_stable_multibyte :
    let text : Text := ['$', '{', 'é', '→', '}', '$', '{', '$', '{', 'a', '}', '}', '$', '{', 'b',
      'c', '}']
    let spans : List Span := [⟨16, 19, ['b', 'c']⟩, ⟨9, 14, ['$', '{', 'a', '}']⟩,
      ⟨1, 7, ['é', '→']⟩, ⟨11, 13, ['a']⟩]
    spans.Perm (scan text) ∧ order spans = order (scan text) := by
  intro text spans
  have hperm : spans.Perm (scan text) := by decide
  exact ⟨hperm, order_stable.2 text spans hperm⟩

end Interpolation
