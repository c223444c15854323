import Interpolation.Proofs.Template.Canonical
import Interpolation.Proofs.Template.Settle

/-!
What a run leaves of a canonical template is canonical, in a text without `$$`.
-/
namespace Interpolation

/-- The text has none of the characters that placeholders are written with. -/
def Text.Plain (t : Text) : Prop :=
  ∀ c ∈ t, c ≠ '$' ∧ c ≠ '{' ∧ c ≠ '}'

instance (t : Text) : Decidable t.Plain :=
  List.decidableBAll _ t

namespace Template

/-- No placeholder comes right after a literal `$`. -/
def Separated : Template → Prop
  | empty => True
  | literal c rest => (c = '$' → ∀ body tail, rest ≠ placeholder body tail) ∧ rest.Separated
  | placeholder body rest => body.Separated ∧ rest.Separated

theorem separated_of_text {t : Template} (h : ¬ ['$', '$'] <:+: t.text) : t.Separated := by
  induction t with
  | empty => trivial
  | literal c rest ih =>
    constructor
    · rintro rfl body tail rfl
      exact h ⟨[], '{' :: (body.text ++ '}' :: tail.text), rfl⟩
    · exact ih fun hrest => h (hrest.trans (List.suffix_cons c rest.text).isInfix)
  | placeholder body rest ihBody ih =>
    rw [text_placeholder] at h
    constructor
    · exact ihBody fun hbody => h (hbody.trans ⟨['$', '{'], '}' :: rest.text, by simp⟩)
    · exact ih fun hrest => h (hrest.trans ⟨'$' :: '{' :: body.text ++ ['}'], [], by simp⟩)

section

variable {unclosed stray : Bool} {value : Text} {t : Template} (hvalue : value.Plain)

include hvalue

private theorem canonical_ofText_append (h : t.Canonical unclosed stray) :
    (ofText value ++ t).Canonical unclosed stray := by
  induction value with
  | nil => exact h
  | cons c value ih =>
    obtain ⟨⟨hdollar, -, hclose⟩, hvalue⟩ := List.forall_mem_cons.1 hvalue
    exact .literal hclose (fun hc => absurd hc hdollar) (ih hvalue)

private theorem separated_ofText_append (h : t.Separated) : (ofText value ++ t).Separated := by
  induction value with
  | nil => exact h
  | cons c value ih =>
    obtain ⟨⟨hdollar, -⟩, hvalue⟩ := List.forall_mem_cons.1 hvalue
    exact ⟨fun hc => absurd hc hdollar, ih hvalue⟩

end

namespace Settles

variable {unclosed stray : Bool} {value : Text} {span : Span} {offset : Nat} {t t' : Template}

/-- Only at a placeholder does the beginning of a template change. -/
private theorem eq_literal (h : Settles value span offset t t')
    (ht : ∀ body tail, t ≠ placeholder body tail) :
    ∃ c rest rest', t = Template.literal c rest ∧ t' = Template.literal c rest' := by
  cases h with
  | here => exact absurd rfl (ht _ _)
  | literal h => exact ⟨_, _, _, rfl, rfl⟩
  | body h => exact absurd rfl (ht _ _)
  | rest h => exact absurd rfl (ht _ _)

theorem separated (h : Settles value span offset t t') (hvalue : value.Plain)
    (ht : t.Separated) : t'.Separated := by
  induction h with
  | here => exact separated_ofText_append hvalue ht.2
  | literal h ih =>
    refine ⟨fun hc body tail hrest => ?_, ih ht.2⟩
    obtain ⟨d, rest, rest', -, hrest'⟩ := h.eq_literal (ht.1 hc)
    cases hrest.symm.trans hrest'
  | body h ih => exact ⟨ih ht.1, ht.2⟩
  | rest h ih => exact ⟨ht.1, ih ht.2⟩

theorem canonical (h : Settles value span offset t t') (hvalue : value.Plain)
    (ht : t.Separated) (hc : t.Canonical unclosed stray) : t'.Canonical unclosed stray := by
  induction hc generalizing offset t' with
  | empty => cases h
  | literal hclose hopen hc ih =>
    cases h with
    | literal h =>
      -- A `$` keeps the character behind it: only a placeholder could have given way to a `{`.
      refine .literal hclose (fun hdollar tail hrest => ?_) (ih h ht.2)
      obtain ⟨d, rest, rest', rfl, hrest'⟩ := h.eq_literal (ht.1 hdollar)
      obtain ⟨rfl, -⟩ := Template.literal.inj (hrest.symm.trans hrest')
      exact hopen hdollar rest rfl
  | opening hc ih =>
    cases h with
    | literal h =>
      cases h with
      | literal h => exact .opening (ih h ht.2.2)
  | closing hc ih =>
    cases h with
    | literal h => exact .closing (ih h ht.2)
  | placeholder hbody hc ihBody ih =>
    cases h with
    | here => exact canonical_ofText_append hvalue hc
    | body h => exact .placeholder (ihBody h ht.1) hc
    | rest h => exact .placeholder hbody (ih h ht.2)

end Settles

/-- The template that a run leaves: placeholders that are replaced become literal text, and the
others hold what is left of their bodies. -/
def residue (bindings : List Binding) (policy : Policy) : Template → Template
  | empty => empty
  | literal c rest => literal c (rest.residue bindings policy)
  | placeholder body rest =>
    let inner := body.residue bindings policy
    let after := rest.residue bindings policy
    match replacement? bindings policy inner.text with
    | some value => ofText value ++ after
    | none => placeholder inner after

theorem fill_output (bindings : List Binding) (policy : Policy) (content : Text) :
    (fill bindings policy content).output =
      (replacement? bindings policy content).getD ('$' :: '{' :: content ++ ['}']) := by
  unfold fill replacement?
  cases firstAccepting bindings content with
  | some binding => rfl
  | none => cases policy <;> rfl

section

variable {bindings : List Binding} {policy : Policy}

theorem plain_of_replacement? {content value : Text} (hvalues : ∀ b ∈ bindings, b.value.Plain)
    (h : replacement? bindings policy content = some value) : value.Plain := by
  unfold replacement? at h
  cases hb : firstAccepting bindings content with
  | some binding =>
    rw [hb] at h
    obtain rfl := Option.some.inj h
    exact hvalues binding (List.mem_of_find?_eq_some hb)
  | none =>
    rw [hb] at h
    cases policy with
    | keep => cases h
    | delete =>
      obtain rfl := Option.some.inj h
      exact fun c hc => absurd hc List.not_mem_nil

theorem text_residue (t : Template) :
    (t.residue bindings policy).text = (t.evaluate bindings policy).output := by
  induction t with
  | empty => rfl
  | literal c rest ih => rw [residue, text, ih, evaluate]
  | placeholder body rest ihBody ih =>
    simp only [residue, evaluate, fill_output, ← ihBody, ← ih]
    cases replacement? bindings policy (body.residue bindings policy).text with
    | some value => simp
    | none => simp [text]

/-- Every placeholder that is left has been tried with the content that it is left with. -/
theorem replacement?_of_mem_residue {t : Template} {offset : Nat} {span : Span}
    (hs : span ∈ (t.residue bindings policy).spansFrom offset) :
    replacement? bindings policy span.content = none := by
  induction t generalizing offset with
  | empty => simp [residue, spansFrom] at hs
  | literal c rest ih => exact ih hs
  | placeholder body rest ihBody ih =>
    simp only [residue] at hs
    cases hr : replacement? bindings policy (body.residue bindings policy).text with
    | some value =>
      rw [hr] at hs
      dsimp only at hs
      rw [spansFrom_append, spansFrom_ofText, List.nil_append] at hs
      exact ih hs
    | none =>
      rw [hr] at hs
      simp only [spansFrom, List.mem_append, List.mem_cons] at hs
      rcases hs with hs | rfl | hs
      · exact ihBody hs
      · exact hr
      · exact ih hs

theorem canonical_residue {unclosed stray : Bool} {t : Template}
    (hvalues : ∀ b ∈ bindings, b.value.Plain) (ht : t.Separated)
    (h : t.Canonical unclosed stray) : (t.residue bindings policy).Canonical unclosed stray := by
  induction h with
  | empty => exact .empty
  | @literal unclosed stray c rest hclose hopen h ih =>
    refine .literal hclose (fun hdollar tail hrest => ?_) (ih ht.2)
    cases rest with
    | empty => cases hrest
    | literal d rest =>
      obtain ⟨rfl, -⟩ := Template.literal.inj hrest
      exact hopen hdollar rest rfl
    | placeholder body rest => exact ht.1 hdollar body rest rfl
  | opening h ih => exact .opening (ih ht.2.2)
  | closing h ih => exact .closing (ih ht.2)
  | @placeholder unclosed stray body rest hbody h ihBody ih =>
    simp only [residue]
    cases hr : replacement? bindings policy (body.residue bindings policy).text with
    | some value => exact canonical_ofText_append (plain_of_replacement? hvalues hr) (ih ht.2)
    | none => exact .placeholder (ihBody ht.1) (ih ht.2)

end

end Template

end Interpolation
