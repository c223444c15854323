import Interpolation.Settings.Value

/-!
Tables as lists that are put together entry by entry.
-/
namespace Interpolation.Entries

variable {α : Type}

/-- The entries with `x` under `key`, in the place of what was there or else at the end. -/
def put (key : String) (x : α) : Entries α → Entries α
  | [] => [(key, x)]
  | (k, y) :: rest => if k = key then (key, x) :: rest else (k, y) :: put key x rest

def erase (key : String) : Entries α → Entries α
  | [] => []
  | (k, y) :: rest => if k = key then erase key rest else (k, y) :: erase key rest

theorem lookup_put (key other : String) (x : α) (entries : Entries α) :
    (put key x entries).lookup other = if other = key then some x else entries.lookup other := by
  induction entries with
  | nil =>
    by_cases h : other = key
    · simp [put, h]
    · simp [put, List.lookup_cons, h, beq_eq_false_iff_ne.2 h]
  | cons entry rest ih =>
    obtain ⟨k, y⟩ := entry
    by_cases hk : k = key
    · subst hk
      by_cases h : other = k
      · simp [put, h]
      · simp [put, List.lookup_cons, h, beq_eq_false_iff_ne.2 h]
    · by_cases h : other = k
      · subst h; simp [put, hk]
      · simp [put, List.lookup_cons, hk, beq_eq_false_iff_ne.2 h, ih]

theorem mem_keys_put {key other : String} {x : α} {entries : Entries α} :
    other ∈ (put key x entries).map Prod.fst ↔ other = key ∨ other ∈ entries.map Prod.fst := by
  induction entries with
  | nil => simp [put]
  | cons entry rest ih =>
    by_cases hk : entry.1 = key
    · simp [put, hk]
    · simp only [put, hk, if_false, List.map_cons, List.mem_cons, ih]
      exact or_left_comm

theorem mem_of_mem_put {key : String} {x : α} {entries : Entries α} {entry : String × α}
    (h : entry ∈ put key x entries) : entry = (key, x) ∨ entry ∈ entries := by
  induction entries with
  | nil => exact Or.inl (List.mem_singleton.1 h)
  | cons first rest ih =>
    by_cases hk : first.1 = key
    · rw [put, if_pos hk, List.mem_cons] at h
      exact h.imp_right (List.mem_cons_of_mem _)
    · rw [put, if_neg hk, List.mem_cons] at h
      rcases h with rfl | h
      · exact Or.inr List.mem_cons_self
      · exact (ih h).imp_right (List.mem_cons_of_mem _)

theorem nodup_put (key : String) (x : α) {entries : Entries α}
    (h : (entries.map Prod.fst).Nodup) : ((put key x entries).map Prod.fst).Nodup := by
  induction entries with
  | nil => simp [put]
  | cons entry rest ih =>
    rw [List.map_cons, List.nodup_cons] at h
    by_cases hk : entry.1 = key
    · rw [put, if_pos hk, List.map_cons, List.nodup_cons, ← hk]
      exact h
    · rw [put, if_neg hk, List.map_cons, List.nodup_cons, mem_keys_put, not_or]
      exact ⟨⟨hk, h.1⟩, ih h.2⟩

end Interpolation.Entries
