import Mathlib.Data.List.Nodup
import Mathlib.Data.List.Perm.Basic

/-!
The same items in another order, in which items of one key stand as they stood before.
-/
namespace Interpolation

/-- `l'` holds the items of `l`, those of one key in the order in which `l` has them. `placed` is
`l'` with the place that each item has in `l`. -/
def Reorders {α κ : Type} (key : α → κ) (l l' : List α) : Prop :=
  ∃ placed : List (α × Nat), placed.Perm l.zipIdx ∧ placed.map Prod.fst = l' ∧
    placed.Pairwise fun a b => key a.1 = key b.1 → a.2 < b.2

section

variable {α κ : Type} {key : α → κ} {l l' : List α}

private theorem pairwise_zipIdx (l : List α) : l.zipIdx.Pairwise fun a b => a.2 < b.2 := by
  have hplaces : (l.zipIdx.map Prod.snd).Pairwise (· < ·) := by
    rw [List.zipIdx_map_snd]
    exact List.pairwise_lt_range'
  rwa [List.pairwise_map] at hplaces

theorem Reorders.filter_eq [DecidableEq κ] (h : Reorders key l l') (k : κ) :
    l'.filter (key · = k) = l.filter (key · = k) := by
  obtain ⟨placed, hperm, rfl, hplaced⟩ := h
  have hsorted : (placed.filter (key ·.1 = k)).Pairwise fun a b => a.2 < b.2 := by
    apply (hplaced.filter _).imp_of_mem
    intro a b ha hb hab
    have hak : key a.1 = k := by simpa using List.of_mem_filter ha
    have hbk : key b.1 = k := by simpa using List.of_mem_filter hb
    exact hab (hak.trans hbk.symm)
  have hsorted' := (pairwise_zipIdx l).filter (key ·.1 = k)
  -- The same items with their places, and only one order goes up in places.
  have hsame : placed.filter (key ·.1 = k) = l.zipIdx.filter (key ·.1 = k) := by
    apply List.Perm.eq_of_pairwise _ hsorted hsorted' (hperm.filter _)
    intro a b _ _ hab hba
    omega
  calc (placed.map Prod.fst).filter (key · = k)
      = (placed.filter (key ·.1 = k)).map Prod.fst := List.filter_map
    _ = (l.zipIdx.filter (key ·.1 = k)).map Prod.fst := by rw [hsame]
    _ = (l.zipIdx.map Prod.fst).filter (key · = k) := by rw [List.filter_map]; rfl
    _ = l.filter (key · = k) := by rw [List.zipIdx_map_fst]

/-- A search that only items of one key can answer goes by these items alone. -/
private theorem find?_filter_key [DecidableEq κ] {p : α → Bool} {k : κ}
    (hp : ∀ a, p a = true → key a = k) (l : List α) :
    (l.filter (key · = k)).find? p = l.find? p := by
  rw [List.find?_filter]
  congr 1
  funext a
  rw [Bool.eq_iff_iff]
  simp only [decide_eq_true_eq]
  constructor
  · exact fun h => h.2
  · exact fun h => ⟨hp a h, h⟩

theorem Reorders.find?_eq [DecidableEq κ] (h : Reorders key l l') {p : α → Bool} {k : κ}
    (hp : ∀ a, p a = true → key a = k) : l'.find? p = l.find? p := by
  rw [← find?_filter_key hp l', h.filter_eq k, find?_filter_key hp l]

/-- Sorting keeps items in order that may stand either way round. -/
theorem reorders_mergeSort {le : α → α → Bool}
    (htrans : ∀ a b c, le a b = true → le b c = true → le a c = true)
    (htotal : ∀ a b, (le a b || le b a) = true) (hkey : ∀ a b, key a = key b → le a b = true)
    (l : List α) : Reorders key l (l.mergeSort le) := by
  have hperm := List.mergeSort_perm l.zipIdx (List.zipIdxLE le)
  refine ⟨l.zipIdx.mergeSort (List.zipIdxLE le), hperm, List.mergeSort_zipIdx, ?_⟩
  have hsorted := List.pairwise_mergeSort (List.zipIdxLE_trans htrans)
    (List.zipIdxLE_total htotal) l.zipIdx
  have hdistinct : (l.zipIdx.mergeSort (List.zipIdxLE le)).Pairwise fun a b => a.2 ≠ b.2 := by
    apply hperm.symm.pairwise (pairwise_zipIdx l |>.imp Nat.ne_of_lt)
    exact Ne.symm
  apply hsorted.imp₂ _ hdistinct
  intro a b hab hne hsame
  have hle : le a.1 b.1 = true := hkey a.1 b.1 hsame
  have hge : le b.1 a.1 = true := hkey b.1 a.1 hsame.symm
  rw [List.zipIdxLE, if_pos hle, if_pos hge, decide_eq_true_eq] at hab
  omega

end

end Interpolation
