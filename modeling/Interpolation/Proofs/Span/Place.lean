import Interpolation.Span.Basic

/-!
What text stands around a span, and which bytes its offsets point at.
-/
namespace Interpolation

open Text

@[simp] theorem Text.utf8Size_dollar : '$'.utf8Size = 1 := rfl

@[simp] theorem Text.utf8Size_opening : '{'.utf8Size = 1 := rfl

@[simp] theorem Text.utf8Size_closing : '}'.utf8Size = 1 := rfl

namespace Span

/-- The text of the whole placeholder. -/
def placeholder (s : Span) : Text :=
  '$' :: '{' :: s.content ++ ['}']

@[simp] theorem byteLength_placeholder (s : Span) :
    byteLength s.placeholder = s.placeholderLength := by
  simp [placeholder, placeholderLength]
  omega

/-- The span is the place of a placeholder of `text`, which begins at byte offset `offset`. -/
def StandsFrom (s : Span) (offset : Nat) (text : Text) : Prop :=
  ∃ before after, text = before ++ s.placeholder ++ after ∧
    s.start = offset + byteLength before + 1 ∧ s.stop = s.start + 1 + byteLength s.content

namespace StandsFrom

variable {s : Span} {offset : Nat} {text : Text}

theorem append_left (before : Text) (h : s.StandsFrom (offset + byteLength before) text) :
    s.StandsFrom offset (before ++ text) := by
  obtain ⟨earlier, after, rfl, hstart, hstop⟩ := h
  refine ⟨before ++ earlier, after, by simp, ?_, hstop⟩
  rw [hstart, byteLength_append]
  omega

theorem append_right (after : Text) (h : s.StandsFrom offset text) :
    s.StandsFrom offset (text ++ after) := by
  obtain ⟨before, later, rfl, hstart, hstop⟩ := h
  exact ⟨before, later ++ after, by simp, hstart, hstop⟩

theorem offset_lt_start (h : s.StandsFrom offset text) : offset < s.start := by
  obtain ⟨before, after, -, hstart, -⟩ := h
  omega

theorem start_lt_stop (h : s.StandsFrom offset text) : s.start < s.stop := by
  obtain ⟨before, after, -, -, hstop⟩ := h
  omega

theorem stop_lt (h : s.StandsFrom offset text) : s.stop < offset + byteLength text := by
  obtain ⟨before, after, rfl, hstart, hstop⟩ := h
  simp only [byteLength_append, byteLength_placeholder, placeholderLength]
  omega

theorem placeholderLength_eq (h : s.StandsFrom offset text) :
    s.placeholderLength = s.stop + 1 - (s.start - 1) := by
  obtain ⟨before, after, -, hstart, hstop⟩ := h
  rw [placeholderLength]
  omega

theorem slice?_content (h : s.StandsFrom 0 text) :
    text.slice? (s.start + 1) s.stop = some s.content := by
  obtain ⟨before, after, rfl, hstart, hstop⟩ := h
  refine slice?_eq_some_iff.2 ⟨before ++ ['$', '{'], '}' :: after, ?_, ?_, ?_⟩
  · simp [placeholder]
  · simp
    omega
  · simp
    omega

theorem content_length_add_three_le (h : s.StandsFrom offset text) :
    s.content.length + 3 ≤ text.length := by
  obtain ⟨before, after, rfl, -, -⟩ := h
  simp only [placeholder, List.length_append, List.length_cons, List.length_nil]
  omega

end StandsFrom

/-- What the offsets of a span point at: a dollar sign stands right before its start, braces stand
at its start and at its end, and its content is the text between these. -/
structure Describes (s : Span) (buffer : Text) : Prop where
  one_le_start : 1 ≤ s.start
  start_lt_stop : s.start < s.stop
  dollar : buffer.slice? (s.start - 1) s.start = some ['$']
  opening : buffer.slice? s.start (s.start + 1) = some ['{']
  closing : buffer.slice? s.stop (s.stop + 1) = some ['}']
  content : buffer.slice? (s.start + 1) s.stop = some s.content
  placeholderLength : s.placeholderLength = s.stop + 1 - (s.start - 1)

theorem StandsFrom.describes {s : Span} {buffer : Text} (h : s.StandsFrom 0 buffer) :
    s.Describes buffer where
  one_le_start := h.offset_lt_start
  start_lt_stop := h.start_lt_stop
  dollar := by
    obtain ⟨before, after, rfl, hstart, -⟩ := h
    refine slice?_eq_some_iff.2 ⟨before, '{' :: s.content ++ '}' :: after, ?_, ?_, ?_⟩
    · simp [placeholder]
    · omega
    · simp
      omega
  opening := by
    obtain ⟨before, after, rfl, hstart, -⟩ := h
    refine slice?_eq_some_iff.2 ⟨before ++ ['$'], s.content ++ '}' :: after, ?_, ?_, ?_⟩
    · simp [placeholder]
    · simp
      omega
    · simp
      omega
  closing := by
    obtain ⟨before, after, rfl, hstart, hstop⟩ := h
    refine slice?_eq_some_iff.2 ⟨before ++ '$' :: '{' :: s.content, after, ?_, ?_, ?_⟩
    · simp [placeholder]
    · simp
      omega
    · simp
      omega
  content := h.slice?_content
  placeholderLength := h.placeholderLength_eq

end Span

end Interpolation
