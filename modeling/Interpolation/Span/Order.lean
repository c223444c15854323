import Interpolation.Span.Basic

/-!
The order in which spans are resolved: short contents first, of equal lengths the leftmost.
-/
namespace Interpolation

namespace Span

/-- Whether `a` may stand before `b` in resolution order. -/
def le (a b : Span) : Bool :=
  a.content.length < b.content.length ||
    (a.content.length == b.content.length && a.start ≤ b.start)

theorem le_iff {a b : Span} :
    a.le b = true ↔ a.content.length < b.content.length ∨
      a.content.length = b.content.length ∧ a.start ≤ b.start := by
  simp [le]

theorem le_trans (a b c : Span) (hab : a.le b = true) (hbc : b.le c = true) : a.le c = true := by
  simp only [le_iff] at *; omega

theorem le_total (a b : Span) : (a.le b || b.le a) = true := by
  simp only [Bool.or_eq_true, le_iff]; omega

end Span

/-- The spans in resolution order. -/
def order (spans : List Span) : List Span :=
  spans.mergeSort Span.le

theorem order_perm (spans : List Span) : (order spans).Perm spans :=
  List.mergeSort_perm spans Span.le

theorem order_pairwise (spans : List Span) : (order spans).Pairwise (Span.le · ·) :=
  List.pairwise_mergeSort Span.le_trans Span.le_total spans

end Interpolation
