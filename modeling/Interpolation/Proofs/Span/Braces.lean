import Mathlib.Data.List.Nodup
import Interpolation.Proofs.Template.Balance

/-!
Two braces belong together when the first opens, the second closes and the text between them is
balanced.
-/
namespace Interpolation

open Text

namespace Text

/-- The brace at the byte offset opens: it is a `{` right after a `$`. -/
def OpensAt (t : Text) (offset : Nat) : Prop :=
  ∃ before after, before ++ '$' :: '{' :: after = t ∧ byteLength before + 1 = offset

/-- The brace at the byte offset is a `}`. -/
def ClosesAt (t : Text) (offset : Nat) : Prop :=
  ∃ before after, before ++ '}' :: after = t ∧ byteLength before = offset

private theorem exists_eq_of_slice? {t between : Text} {start stop : Nat} (hopen : t.OpensAt start)
    (hclose : t.ClosesAt stop) (hslice : t.slice? (start + 1) stop = some between) :
    ∃ before after, t = before ++ '$' :: '{' :: (between ++ '}' :: after) ∧
      start = byteLength before + 1 ∧ stop = byteLength before + 2 + byteLength between := by
  obtain ⟨before, rest, hopen, hstart⟩ := hopen
  obtain ⟨inside, after, hclose, hstop⟩ := hclose
  obtain ⟨before', rest', hslice, hstart', hstop'⟩ := slice?_eq_some_iff.1 hslice
  -- The braces and the slice cut the text at the same offsets, hence into the same parts.
  have hcut : t.splitAt? (start + 1) = some (before ++ ['$', '{'], rest) := by
    refine splitAt?_eq_some_iff.2 ⟨by simpa using hopen, ?_⟩
    simp
    omega
  have hcut' : t.splitAt? (start + 1) = some (before', between ++ rest') :=
    splitAt?_eq_some_iff.2 ⟨by simpa using hslice, hstart'⟩
  have hend : t.splitAt? stop = some (inside, '}' :: after) :=
    splitAt?_eq_some_iff.2 ⟨hclose, hstop⟩
  have hend' : t.splitAt? stop = some (before' ++ between, rest') :=
    splitAt?_eq_some_iff.2 ⟨hslice, hstop'⟩
  obtain ⟨rfl, rfl⟩ := Prod.mk.inj (Option.some.inj (hcut.symm.trans hcut'))
  obtain ⟨rfl, rfl⟩ := Prod.mk.inj (Option.some.inj (hend.symm.trans hend'))
  refine ⟨before, after, hopen.symm, hstart.symm, ?_⟩
  simp only [byteLength_append, byteLength_cons, byteLength_nil, utf8Size_dollar,
    utf8Size_opening] at hstop
  omega

end Text

namespace Span.StandsFrom

variable {s : Span} {text : Text}

private theorem opensAt (h : s.StandsFrom 0 text) : text.OpensAt s.start := by
  obtain ⟨before, after, rfl, hstart, -⟩ := h
  exact ⟨before, s.content ++ '}' :: after, by simp [placeholder], by omega⟩

private theorem closesAt (h : s.StandsFrom 0 text) : text.ClosesAt s.stop := by
  obtain ⟨before, after, rfl, hstart, hstop⟩ := h
  refine ⟨before ++ '$' :: '{' :: s.content, after, by simp [placeholder], ?_⟩
  simp
  omega

end Span.StandsFrom

namespace Template

/-- What has been read in front of some point of a text does not depend on what follows, if that
does not turn a `$` before it into an opening. -/
private theorem exists_parseFrom_append (enclosing : List Template) (current : Template)
    (s : Text) :
    ∃ (enclosing' : List Template) (current' : Template),
      enclosingText enclosing' ++ current'.text = enclosingText enclosing ++ current.text ++ s ∧
      ∀ rest : Text, (∀ tail, rest ≠ '{' :: tail) →
        parseFrom enclosing current (s ++ rest) = parseFrom enclosing' current' rest := by
  fun_induction parseFrom enclosing current s with
  | case1 enclosing current => exact ⟨enclosing, current, by simp, fun rest _ => rfl⟩
  | case2 enclosing current s ih =>
    obtain ⟨enclosing', current', htext, hread⟩ := ih
    refine ⟨enclosing', current', by simp [htext, enclosingText, text], fun rest hrest => ?_⟩
    rw [List.cons_append, List.cons_append, parseFrom, hread rest hrest]
  | case3 current s ih =>
    obtain ⟨enclosing', current', htext, hread⟩ := ih
    refine ⟨enclosing', current', by simp [htext, enclosingText, text], fun rest hrest => ?_⟩
    rw [List.cons_append, parseFrom, hread rest hrest]
  | case4 current s before enclosing ih =>
    obtain ⟨enclosing', current', htext, hread⟩ := ih
    refine ⟨enclosing', current', by simp [htext, enclosingText, text], fun rest hrest => ?_⟩
    rw [List.cons_append, parseFrom, hread rest hrest]
  | case5 enclosing current c s hopen hclose ih =>
    obtain ⟨enclosing', current', htext, hread⟩ := ih
    refine ⟨enclosing', current', by simp [htext, text], fun rest hrest => ?_⟩
    rw [List.cons_append, parseFrom_cons enclosing current hclose, hread rest hrest]
    exact fun hc => append_ne_opening (fun tail hs => hopen tail hc hs) hrest

/-- A closed template between an opening and a closing brace is a placeholder wherever it stands. -/
private theorem mem_spans_parse (before after : Text) {body : Template}
    (hbody : body.Canonical false false) :
    ⟨byteLength before + 1, byteLength before + 2 + byteLength body.text, body.text⟩ ∈
      (parse (before ++ '$' :: '{' :: (body.text ++ '}' :: after))).spans := by
  obtain ⟨enclosing, current, htext, hread⟩ := exists_parseFrom_append [] empty before
  rw [enclosingText, text, List.nil_append, List.nil_append] at htext
  have hopened : parse (before ++ '$' :: '{' :: (body.text ++ '}' :: after)) =
      parseFrom (current :: enclosing) body ('}' :: after) := by
    rw [parse, hread _ (by simp), parseFrom, hbody.parseFrom_text_append _ _ _ (by simp) (by simp)
      (by simp), empty_append]
  rw [hopened, parseFrom, spans_parseFrom _ _ _ rfl, spansFrom_append]
  have hlength : byteLength (enclosingText enclosing) + byteLength current.text =
      byteLength before := by
    rw [← byteLength_append, htext]
  rw [hlength]
  simp [spansFrom]

end Template

section

variable {text : Text}

theorem standsFrom_of_mem_scan {span : Span} (hs : span ∈ scan text) : span.StandsFrom 0 text := by
  rw [← Template.spans_parse] at hs
  have hspan := Template.standsFrom_of_mem hs
  rwa [Template.text_parse] at hspan

theorem nodup_map_stop_scan (text : Text) : ((scan text).map Span.stop).Nodup := by
  rw [← Template.spans_parse, List.Nodup, List.pairwise_map]
  exact (Template.spansFrom_pairwise (Template.parse text) 0).imp fun h => Nat.ne_of_lt h.1

/-- No two placeholders of a text end at one brace. -/
private theorem countP_scan_eq_one {span : Span} (hs : span ∈ scan text) :
    (scan text).countP (fun other => other.start = span.start ∧ other.stop = span.stop) = 1 := by
  have hnodup := nodup_map_stop_scan text
  have hsame : ∀ other ∈ scan text,
      decide (other.start = span.start ∧ other.stop = span.stop) = true ↔
        (other == span) = true := by
    intro other hother
    rw [decide_eq_true_iff, beq_iff_eq]
    constructor
    · exact fun h => List.inj_on_of_nodup_map hnodup hother hs h.2
    · rintro rfl
      exact ⟨rfl, rfl⟩
  rw [List.countP_congr hsame]
  exact List.count_eq_one_of_mem hnodup.of_map hs

end

/-- The scanner finds exactly the places of a balanced text between an opening and a closing brace,
each of them once and with that text for content. -/
theorem exists_mem_scan_iff_balanced (text : Text) (start stop : Nat) :
    ((∃ span ∈ scan text, span.start = start ∧ span.stop = stop) ↔
      text.OpensAt start ∧ text.ClosesAt stop ∧
        ∃ between, text.slice? (start + 1) stop = some between ∧ between.Balanced) ∧
    ∀ span ∈ scan text, span.start = start → span.stop = stop →
      text.slice? (start + 1) stop = some span.content ∧
      (scan text).countP (fun other => other.start = start ∧ other.stop = stop) = 1 := by
  refine ⟨⟨?_, ?_⟩, ?_⟩
  · rintro ⟨span, hs, rfl, rfl⟩
    have hstands := standsFrom_of_mem_scan hs
    have hbalanced : span.content.Balanced := by
      rw [← Template.spans_parse] at hs
      exact (Template.canonical_parse text).balanced_content hs
    exact ⟨hstands.opensAt, hstands.closesAt, _, hstands.slice?_content, hbalanced⟩
  · rintro ⟨hopen, hclose, between, hslice, hbalanced⟩
    obtain ⟨before, after, rfl, rfl, rfl⟩ := exists_eq_of_slice? hopen hclose hslice
    -- The text between the braces is that of a closed template, which the reader meets again.
    obtain ⟨body, hbody, rfl⟩ := Template.exists_canonical between
    have hmem := Template.mem_spans_parse before after (hbody.closed_of_balanced hbalanced)
    rw [Template.spans_parse] at hmem
    exact ⟨_, hmem, rfl, rfl⟩
  · rintro span hs rfl rfl
    exact ⟨(standsFrom_of_mem_scan hs).slice?_content, countP_scan_eq_one hs⟩

/-- A placeholder among a stray brace, a run of dollar signs, braces that open nothing and an
opening that stays unclosed. -/
theorem exists_mem_scan_iff_balanced_malformed :
    let text : Text := ['}', '{', '$', '$', '{', 'a', '{', '$', '{', 'é', '}', '}', '$', '{']
    let span : Span := ⟨4, 12, ['a', '{', '$', '{', 'é', '}']⟩
    span ∈ scan text ∧ text.slice? (4 + 1) 12 = some span.content ∧
      (scan text).countP (fun other => other.start = 4 ∧ other.stop = 12) = 1 := by
  intro text span
  have hs : span ∈ scan text := by decide
  exact ⟨hs, (exists_mem_scan_iff_balanced text 4 12).2 span hs rfl rfl⟩

end Interpolation
