import Interpolation.Span.Order
import Interpolation.Proofs.Span.Move
import Interpolation.Proofs.Template.Scan

/-!
Nesting among the placeholders of a text, and the orders that respect it.
-/
namespace Interpolation

variable {text : Text}

/-- A placeholder is longer than those in it by their dollar signs and braces at least. -/
theorem content_length_of_encloses {a b : Span} (ha : a ∈ scan text) (hb : b ∈ scan text)
    (hab : a.Encloses b) : b.content.length + 3 ≤ a.content.length := by
  rw [← Template.spans_parse] at ha hb
  exact (Template.standsFrom_content_of_encloses ha hb hab).content_length_add_three_le

/-- Closing braces come from the inside out. -/
theorem innerFirst_scan (text : Text) : Span.InnerFirst (scan text) := by
  rw [← Template.spans_parse]
  refine (Template.spansFrom_pairwise (Template.parse text) 0).imp ?_
  rintro a b ⟨hstop, -⟩ ⟨-, hstop'⟩
  exact Nat.lt_asymm hstop hstop'

theorem innerFirst_of_pairwise_length {spans : List Span} (h : spans.Perm (scan text))
    (hlength : spans.Pairwise fun a b => a.content.length ≤ b.content.length) :
    Span.InnerFirst spans := by
  refine hlength.imp_of_mem fun ha hb hle hab => ?_
  have := content_length_of_encloses (h.mem_iff.1 ha) (h.mem_iff.1 hb) hab
  omega

/-- Spans with different starts have one place each in resolution order. -/
theorem order_eq_of_perm {spans sorted : List Span} (h : spans.Perm sorted)
    (hsorted : sorted.Pairwise (Span.le · ·))
    (hstart : ∀ a ∈ sorted, ∀ b ∈ sorted, a.start = b.start → a = b) : order spans = sorted := by
  have hperm : (order spans).Perm sorted := (order_perm spans).trans h
  refine hperm.eq_of_pairwise (fun a b ha hb hab hba => ?_) (order_pairwise spans) hsorted
  rw [Span.le_iff] at hab hba
  exact hstart a (hperm.mem_iff.1 ha) b hb (by omega)

theorem innerFirst_order_scan (text : Text) : Span.InnerFirst (order (scan text)) := by
  refine innerFirst_of_pairwise_length (order_perm _) ((order_pairwise _).imp fun h => ?_)
  rw [Span.le_iff] at h
  omega

private theorem not_le_of_encloses {a b : Span} (ha : a ∈ scan text) (hb : b ∈ scan text)
    (hab : a.Encloses b) : ¬ a.le b := by
  have hlength := content_length_of_encloses ha hb hab
  rw [Span.le_iff]
  omega

/-- Of two nested placeholders the inner one comes first in resolution order. Nesting leaves three
characters at least between their lengths, so spans that are told apart by their starts only are
never nested. -/
theorem order_scan_inner_before_outer (text : Text) :
    (∀ a ∈ scan text, ∀ b ∈ scan text, a.Encloses b →
      b.content.length + 3 ≤ a.content.length ∧
      a ∈ order (scan text) ∧ b ∈ order (scan text) ∧
      ∀ i j : Nat, (order (scan text))[i]? = some a → (order (scan text))[j]? = some b → j < i) ∧
    (∀ a ∈ scan text, ∀ b ∈ scan text, a.content.length = b.content.length → ¬ a.Encloses b) ∧
    Span.InnerFirst (order (scan text)) := by
  refine ⟨fun a ha b hb hab => ?_, fun a ha b hb hlength hab => ?_, innerFirst_order_scan text⟩
  · have hperm := order_perm (scan text)
    refine ⟨content_length_of_encloses ha hb hab, hperm.mem_iff.2 ha, hperm.mem_iff.2 hb, ?_⟩
    -- In a sorted list the outer one could only come earlier by being no longer.
    intro i j hi hj
    obtain ⟨hi', rfl⟩ := List.getElem?_eq_some_iff.1 hi
    obtain ⟨hj', rfl⟩ := List.getElem?_eq_some_iff.1 hj
    by_contra hij
    rcases Nat.lt_or_eq_of_le (Nat.le_of_not_lt hij) with hij | rfl
    · have hle := List.pairwise_iff_getElem.1 (order_pairwise (scan text)) i j hi' hj' hij
      exact not_le_of_encloses ha hb hab hle
    · exact hab.asymm hab
  · have hle := content_length_of_encloses ha hb hab
    omega

/-- Nested as tightly as can be, with a character of several bytes inside and a neighbour whose
content is as long as the outer one's. -/
theorem order_scan_inner_before_outer_tight :
    let text : Text := ['$', '{', 'a', 'b', 'c', 'd', '}', '$', '{', '$', '{', '→', '}', '}']
    let a : Span := ⟨8, 15, ['$', '{', '→', '}']⟩
    let b : Span := ⟨10, 14, ['→']⟩
    a.Encloses b ∧ b.content.length + 3 ≤ a.content.length ∧
      ∀ i j : Nat, (order (scan text))[i]? = some a → (order (scan text))[j]? = some b → j < i := by
  intro text a b
  have ha : a ∈ scan text := by decide
  have hb : b ∈ scan text := by decide
  have hab : a.Encloses b := by decide
  obtain ⟨hlength, -, -, hbefore⟩ := (order_scan_inner_before_outer text).1 a ha b hb hab
  exact ⟨hab, hlength, hbefore⟩

end Interpolation
