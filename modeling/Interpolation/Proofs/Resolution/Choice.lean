import Interpolation.Proofs.Reordering
import Interpolation.Proofs.Resolution.Turns

/-!
Which binding of a store a content is given to. Only bindings of one key compete for it.
-/
namespace Interpolation

/-- A search goes on as before without an item behind one that answers whenever this one would. -/
theorem find?_eraseIdx {α : Type} {p : α → Bool} {l : List α} {i j : Nat} {x y : α} (hij : i < j)
    (hx : l[i]? = some x) (hy : l[j]? = some y) (h : p y = true → p x = true) :
    (l.eraseIdx j).find? p = l.find? p := by
  obtain ⟨hj, rfl⟩ := List.getElem?_eq_some_iff.1 hy
  have hsplit : l = l.take j ++ l[j] :: l.drop (j + 1) := by
    rw [List.getElem_cons_drop, List.take_append_drop]
  have hmem : x ∈ l.take j := by
    apply List.mem_of_getElem? (i := i)
    rw [List.getElem?_take_of_lt hij, hx]
  rw [List.eraseIdx_eq_take_drop_succ]
  conv_rhs => rw [hsplit]
  rw [List.find?_append, List.find?_append]
  cases hfirst : (l.take j).find? p with
  | some a => rfl
  | none =>
    -- The one in front is passed over, so this one would be as well.
    have hpx : ¬ p x = true := List.find?_eq_none.1 hfirst x hmem
    have hpy : ¬ p l[j] = true := fun hpy => hpx (h hpy)
    rw [List.find?_cons_of_neg hpy]

/-- `x` accepts what `y` accepts, by what the two say about their patterns: either `x` ignores case
and the keys agree, or both heed it and the patterns agree but for blank characters. -/
def Binding.Dominates (x y : Binding) : Prop :=
  x.caseSensitivity.isSensitive = false ∧ x.key = y.key ∨
    x.caseSensitivity.isSensitive = true ∧ y.caseSensitivity.isSensitive = true ∧
      x.pattern.squeeze = y.pattern.squeeze

instance (x y : Binding) : Decidable (x.Dominates y) :=
  inferInstanceAs (Decidable (_ ∨ _))

theorem Binding.Dominates.accepts {x y : Binding} {content : Text} (h : x.Dominates y)
    (hy : y.accepts content = true) : x.accepts content = true := by
  rcases h with ⟨hx, hkey⟩ | ⟨hx, hsensitive, hpattern⟩
  · rw [accepts_iff_key_eq hx, hkey]
    exact key_eq_of_accepts hy
  · unfold Binding.accepts at hy ⊢
    rw [hsensitive, ← hpattern] at hy
    rw [hx]
    exact hy

section

variable {bindings bindings' : List Binding}

theorem Reorders.firstAccepting_eq (h : Reorders Binding.key bindings bindings') (content : Text) :
    firstAccepting bindings' content = firstAccepting bindings content := by
  unfold firstAccepting
  apply h.find?_eq
  intro b hb
  exact Binding.key_eq_of_accepts hb

private theorem firstAccepting_eraseIdx {i j : Nat} {x y : Binding} (hij : i < j)
    (hx : bindings[i]? = some x) (hy : bindings[j]? = some y) (hdominates : x.Dominates y)
    (content : Text) :
    firstAccepting (bindings.eraseIdx j) content = firstAccepting bindings content := by
  unfold firstAccepting
  apply find?_eraseIdx hij hx hy
  intro hyaccepts
  exact hdominates.accepts hyaccepts

end

theorem Store.render?_of_firstAccepting_eq {store store' : Store}
    (h : ∀ content, firstAccepting store'.bindings content = firstAccepting store.bindings content)
    (template : Text) (mode : Mode) :
    store'.render? template mode = store.render? template mode := by
  apply render?_congr
  intro policy
  unfold resolve?
  apply substitute?_congr
  intro k content _
  exact h content

/-- Stores with the same bindings in another order, in which bindings of one key stand in theirs,
give the same result for every template and mode. -/
theorem render?_reorders (store reordered : Store)
    (h : Reorders Binding.key store.bindings reordered.bindings) (template : Text) (mode : Mode) :
    reordered.render? template mode = store.render? template mode ∧
      (store.RenderFits template mode → (store.render? template mode).isSome) := by
  constructor
  · exact Store.render?_of_firstAccepting_eq h.firstAccepting_eq template mode
  · exact Store.render?_isSome

/-- The two patterns with Greek letters have one key, in which the sigma has the form that it takes
at the end of a word, and so they stay in their order around the third. -/
theorem render?_reorders_sigma :
    let upper : Binding := ⟨['Ο', 'Σ'], ['1'], .sensitive⟩
    let lower : Binding := ⟨['ο', 'ς', ' '], ['2'], .unspecified⟩
    let other : Binding := ⟨['b'], ['Ο', 'Σ'], .insensitive⟩
    let store : Store := ⟨[upper, other, lower]⟩
    let reordered : Store := ⟨[other, upper, lower]⟩
    let template : Text := ['$', '{', 'ο', 'Σ', '}', '$', '{', '$', '{', 'B', '}', '}']
    Reorders Binding.key store.bindings reordered.bindings ∧
      reordered.render? template .optimization = store.render? template .optimization ∧
      (store.render? template .optimization).isSome := by
  intro upper lower other store reordered template
  have hreorders : Reorders Binding.key store.bindings reordered.bindings :=
    ⟨[(other, 1), (upper, 0), (lower, 2)], by decide, by decide, by decide +kernel⟩
  have horder : order (scan template) = [⟨10, 12, ['B']⟩, ⟨1, 6, ['ο', 'Σ']⟩,
      ⟨8, 13, ['$', '{', 'B', '}']⟩] :=
    order_eq_of_perm (by decide) (by decide) (by decide)
  have hfits : store.RenderFits template .optimization := by
    intro policy _
    rw [horder]
    cases policy <;> exact ⟨by decide, by decide +kernel⟩
  obtain ⟨hsame, hsome⟩ := render?_reorders store reordered hreorders template .optimization
  exact ⟨hreorders, hsame, hsome hfits⟩

/-- A binding behind one that dominates it can go, whatever its value is and whatever stands between
the two: for every template and mode the result is the same without it. -/
theorem render?_eraseIdx (store : Store) (i j : Nat) (x y : Binding) (hij : i < j)
    (hx : store.get? i = some x) (hy : store.get? j = some y) (hdominates : x.Dominates y)
    (template : Text) (mode : Mode) :
    Store.render? ⟨store.bindings.eraseIdx j⟩ template mode = store.render? template mode ∧
      (store.RenderFits template mode → (store.render? template mode).isSome) := by
  constructor
  · apply Store.render?_of_firstAccepting_eq
    exact firstAccepting_eraseIdx hij hx hy hdominates
  · exact Store.render?_isSome

/-- The binding that goes would accept the inner content to the letter, but for the one in front of
it, which ignores case; what comes of that is accepted by the last one. -/
theorem render?_eraseIdx_sensitive :
    let x : Binding := ⟨['É'], ['a'], .unspecified⟩
    let y : Binding := ⟨[' ', 'é'], ['z'], .sensitive⟩
    let store : Store := ⟨[x, ⟨['z', 'b'], [], .sensitive⟩, y, ⟨['a', 'b'], ['é'], .insensitive⟩]⟩
    let template : Text := ['$', '{', '$', '{', 'é', '}', 'b', '}']
    x.Dominates y ∧
      Store.render? ⟨store.bindings.eraseIdx 2⟩ template .optimization =
        store.render? template .optimization ∧
      (store.render? template .optimization).isSome := by
  intro x y store template
  have hdominates : x.Dominates y := by decide +kernel
  have horder : order (scan template) = [⟨3, 6, ['é']⟩, ⟨1, 8, ['$', '{', 'é', '}', 'b']⟩] :=
    order_eq_of_perm (by decide) (by decide) (by decide)
  have hfits : store.RenderFits template .optimization := by
    intro policy _
    rw [horder]
    cases policy <;> exact ⟨by decide, by decide +kernel⟩
  obtain ⟨hsame, hsome⟩ := render?_eraseIdx store 0 2 x y (by decide) rfl rfl hdominates template
    .optimization
  exact ⟨hdominates, hsame, hsome hfits⟩

end Interpolation
