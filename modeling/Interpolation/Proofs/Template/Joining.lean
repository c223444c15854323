import Interpolation.Proofs.Span.Braces

/-!
Reading one text after another, where the seam closes nothing and makes no opening.
-/
namespace Interpolation

open Text

namespace Text

/-- A `$` at the end of one text meets a `{` at the beginning of the other. -/
def SplitsOpening (before after : Text) : Prop :=
  ['$'] <:+ before ∧ ['{'] <+: after

instance (before after : Text) : Decidable (SplitsOpening before after) :=
  inferInstanceAs (Decidable (_ ∧ _))

theorem SplitsOpening.mono {before after before' after' : Text} (h : SplitsOpening before after)
    (hbefore : before <:+ before') (hafter : after <+: after') : SplitsOpening before' after' :=
  ⟨h.1.trans hbefore, h.2.trans hafter⟩

theorem not_splitsOpening_of_suffix {before after before' : Text}
    (h : ¬ SplitsOpening before' after) (hbefore : before <:+ before') :
    ¬ SplitsOpening before after :=
  fun hsplits => h (hsplits.mono hbefore List.prefix_rfl)

/-- The brace at the byte offset opens, but no placeholder begins there. -/
def UnclosedAt (t : Text) (offset : Nat) : Prop :=
  t.OpensAt offset ∧ ∀ span ∈ scan t, span.start ≠ offset

/-- The brace at the byte offset closes no placeholder. -/
def StrayAt (t : Text) (offset : Nat) : Prop :=
  t.ClosesAt offset ∧ ∀ span ∈ scan t, span.stop ≠ offset

end Text

namespace Template

private theorem suffix_text_placeholder (body rest : Template) :
    rest.text <:+ (placeholder body rest).text :=
  ⟨'$' :: '{' :: body.text ++ ['}'], by simp [text]⟩

/-- Placeholders keep clear of a literal character between templates. -/
private theorem stop_lt_or_lt_start {before rest : Template} {c : Char} {span : Span}
    (hs : span ∈ (before ++ literal c rest).spans) :
    span.start < span.stop ∧
      (span.stop < byteLength before.text ∨ byteLength before.text + c.utf8Size < span.start) := by
  rw [spans, spansFrom_append, List.mem_append] at hs
  rcases hs with hs | hs
  · have hstands := standsFrom_of_mem hs
    have hstop := hstands.stop_lt
    exact ⟨hstands.start_lt_stop, .inl (by omega)⟩
  · have hstands := standsFrom_of_mem (t := rest) hs
    have hstart := hstands.offset_lt_start
    exact ⟨hstands.start_lt_stop, .inr (by omega)⟩

namespace Canonical

variable {unclosed stray unclosed' stray' : Bool} {s t : Template}

theorem mono (h : t.Canonical unclosed stray) (hunclosed : unclosed = true → unclosed' = true)
    (hstray : stray = true → stray' = true) : t.Canonical unclosed' stray' := by
  induction h generalizing stray' with
  | empty => exact .empty
  | literal hclose hopen h ih => exact .literal hclose hopen (ih hunclosed hstray)
  | opening h ih =>
    obtain rfl := hunclosed rfl
    exact .opening h
  | closing h ih =>
    obtain rfl := hstray rfl
    exact .closing (ih hunclosed hstray)
  | placeholder hbody h ihBody ih => exact .placeholder hbody (ih hunclosed hstray)

/-- Canonical templates join to a canonical one if nothing in the first is left to close or nothing
in the second is there to close it. -/
theorem append (hs : s.Canonical unclosed stray) (ht : t.Canonical unclosed' stray')
    (hseam : ¬ SplitsOpening s.text t.text) (hbraces : unclosed = true → stray' = false) :
    (s ++ t).Canonical (unclosed || unclosed') (stray || stray') := by
  induction hs with
  | empty => exact ht.mono (by simp_all) (by simp_all)
  | @literal unclosed stray c rest hclose hopen h ih =>
    have hrest := ih (not_splitsOpening_of_suffix hseam (List.suffix_cons c rest.text)) hbraces
    refine .literal hclose (fun hc tail htail => ?_) hrest
    subst hc
    cases rest with
    | empty =>
      -- The seam comes right after the `$`.
      obtain rfl : t = .literal '{' tail := htail
      exact hseam ⟨List.suffix_rfl, _, rfl⟩
    | literal d rest =>
      obtain ⟨rfl, -⟩ := Template.literal.inj htail
      exact hopen rfl rest rfl
    | placeholder body rest => cases htail
  | @opening stray rest h ih =>
    obtain rfl := hbraces rfl
    have hrest := ih (not_splitsOpening_of_suffix hseam ⟨['$', '{'], rfl⟩) hbraces
    rw [Bool.or_false] at hrest ⊢
    exact .opening hrest
  | @closing unclosed rest h ih =>
    have hrest := ih (not_splitsOpening_of_suffix hseam (List.suffix_cons '}' rest.text)) hbraces
    exact .closing hrest
  | @placeholder unclosed stray body rest hbody h ihBody ih =>
    have hsuffix := suffix_text_placeholder body rest
    exact .placeholder hbody (ih (not_splitsOpening_of_suffix hseam hsuffix) hbraces)

private theorem unclosed_cases (h : t.Canonical true stray) :
    t.Canonical false stray ∨
      ∃ before rest : Template, t = before ++ Template.literal '$' (.literal '{' rest) := by
  generalize hu : true = unclosed at h
  induction h with
  | empty => exact .inl .empty
  | @literal unclosed stray c tail hclose hopen h ih =>
    rcases ih hu with hclosed | ⟨before, rest, rfl⟩
    · exact .inl (.literal hclose hopen hclosed)
    · exact .inr ⟨.literal c before, rest, rfl⟩
  | @opening stray tail h ih => exact .inr ⟨.empty, tail, rfl⟩
  | @closing unclosed tail h ih =>
    rcases ih hu with hclosed | ⟨before, rest, rfl⟩
    · exact .inl (.closing hclosed)
    · exact .inr ⟨.literal '}' before, rest, rfl⟩
  | @placeholder unclosed stray body tail hbody h ihBody ih =>
    rcases ih hu with hclosed | ⟨before, rest, rfl⟩
    · exact .inl (.placeholder hbody hclosed)
    · exact .inr ⟨.placeholder body before, rest, rfl⟩

end Canonical

theorem canonical_parse_of_not_unclosedAt {s : Text} (h : ∀ offset, ¬ s.UnclosedAt offset) :
    (parse s).Canonical false true := by
  rcases (canonical_parse s).unclosed_cases with hclosed | ⟨before, rest, hparse⟩
  · exact hclosed
  · have htext : before.text ++ '$' :: '{' :: rest.text = s := by
      rw [← text_parse s, hparse, text_append, text, text]
    refine absurd ⟨⟨before.text, rest.text, htext, rfl⟩, fun span hs hstart => ?_⟩
      (h (byteLength before.text + 1))
    rw [← spans_parse, hparse] at hs
    have hplace := stop_lt_or_lt_start hs
    rw [utf8Size_dollar] at hplace
    omega

theorem canonical_parse_of_not_strayAt {s : Text} (h : ∀ offset, ¬ s.StrayAt offset) :
    (parse s).Canonical true false := by
  rcases (canonical_parse s).stray_cases with hclosed | ⟨before, rest, hparse, -, -⟩
  · exact hclosed
  · have htext : before.text ++ '}' :: rest.text = s := by
      rw [← text_parse s, hparse, text_append, text]
    refine absurd ⟨⟨before.text, rest.text, htext, rfl⟩, fun span hs hstop => ?_⟩
      (h (byteLength before.text))
    rw [← spans_parse, hparse] at hs
    have hplace := stop_lt_or_lt_start hs
    omega

/-- Reading one text after another gives one template after the other. -/
theorem parse_append {a b : Text} (hseam : ¬ SplitsOpening a b)
    (hbraces : (∀ offset, ¬ a.UnclosedAt offset) ∨ ∀ offset, ¬ b.StrayAt offset) :
    parse (a ++ b) = parse a ++ parse b := by
  have hseam' : ¬ SplitsOpening (parse a).text (parse b).text := by
    rwa [text_parse, text_parse]
  have hjoined : (parse a ++ parse b).Canonical true true := by
    rcases hbraces with ha | hb
    · exact (canonical_parse_of_not_unclosedAt ha).append (canonical_parse b) hseam' (by simp)
    · exact (canonical_parse a).append (canonical_parse_of_not_strayAt hb) hseam' (by simp)
  rw [← hjoined.parse_text, text_append, text_parse, text_parse]

end Template

end Interpolation
