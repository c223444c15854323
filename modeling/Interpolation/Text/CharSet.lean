/-!
Sets of characters written as ranges of code points, the form in which character properties are
tabulated.
-/
namespace Interpolation

/-- Ranges of code points, each given by its first and last member. -/
abbrev CharSet := List (Nat × Nat)

namespace CharSet

def contains (s : CharSet) (c : Char) : Bool :=
  s.any fun (first, last) => first ≤ c.toNat && c.toNat ≤ last

theorem contains_iff {s : CharSet} {c : Char} :
    s.contains c = true ↔ ∃ r ∈ s, r.1 ≤ c.toNat ∧ c.toNat ≤ r.2 := by
  simp [contains, List.any_eq_true]

end CharSet

end Interpolation
