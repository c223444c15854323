import Interpolation.Template.Basic
import Interpolation.Proofs.Span.Place

/-!
Where the spans of a template stand in its text, and how they lie to each other.
-/
namespace Interpolation

open Text

namespace Template

private theorem byteLength_text_placeholder (body rest : Template) :
    byteLength (placeholder body rest).text =
      2 + byteLength body.text + 1 + byteLength rest.text := by
  simp [text]
  omega

theorem spansFrom_append (t u : Template) (offset : Nat) :
    (t ++ u).spansFrom offset =
      t.spansFrom offset ++ u.spansFrom (offset + byteLength t.text) := by
  induction t generalizing offset with
  | empty => simp [spansFrom, text]
  | literal c rest ih => simp [spansFrom, text, ih, Nat.add_assoc]
  | placeholder body rest _ ih =>
    simp [spansFrom, ih, byteLength_text_placeholder, Nat.add_assoc]

/-- Every span of a template is the place of a placeholder of its text. -/
theorem standsFrom_of_mem {t : Template} {offset : Nat} {s : Span}
    (hs : s ∈ t.spansFrom offset) : s.StandsFrom offset t.text := by
  induction t generalizing offset with
  | empty => simp [spansFrom] at hs
  | literal c rest ih =>
    have hrest := ih hs
    exact Span.StandsFrom.append_left [c] (by simpa using hrest)
  | placeholder body rest ihBody ihRest =>
    simp only [spansFrom, List.mem_append, List.mem_cons] at hs
    rcases hs with hs | rfl | hs
    · have hbody := (ihBody hs).append_right ('}' :: rest.text)
      exact Span.StandsFrom.append_left ['$', '{'] (by simpa using hbody)
    · exact ⟨[], rest.text, by simp [text, Span.placeholder], by simp, by simp⟩
    · have hlen : byteLength ('$' :: '{' :: body.text ++ ['}']) = 2 + byteLength body.text + 1 := by
        simp
        omega
      have hrest := ihRest hs
      rw [show offset + 2 + byteLength body.text + 1 =
        offset + byteLength ('$' :: '{' :: body.text ++ ['}']) by omega] at hrest
      simpa [text] using hrest.append_left _

/-- The spans of a template come in the order of their closing braces, and of two the later one
encloses the whole placeholder of the earlier one or begins after it. -/
theorem spansFrom_pairwise (t : Template) (offset : Nat) :
    (t.spansFrom offset).Pairwise fun a b =>
      a.stop < b.stop ∧ (b.start + 1 < a.start ∨ a.stop + 1 < b.start) := by
  induction t generalizing offset with
  | empty => simp [spansFrom]
  | literal c rest ih => exact ih _
  | placeholder body rest ihBody ihRest =>
    simp only [spansFrom, List.pairwise_append, List.pairwise_cons, List.mem_cons]
    refine ⟨ihBody _, ⟨?_, ihRest _⟩, ?_⟩
    · intro b hb
      have := (standsFrom_of_mem hb).offset_lt_start
      have := (standsFrom_of_mem hb).start_lt_stop
      omega
    · rintro a ha b (rfl | hb)
      · have := (standsFrom_of_mem ha).offset_lt_start
        have := (standsFrom_of_mem ha).stop_lt
        dsimp only
        omega
      · have := (standsFrom_of_mem ha).stop_lt
        have := (standsFrom_of_mem hb).offset_lt_start
        have := (standsFrom_of_mem hb).start_lt_stop
        omega

/-- A span that another one encloses is the place of a placeholder of the other's content. -/
theorem standsFrom_content_of_encloses {t : Template} {offset : Nat} {a b : Span}
    (ha : a ∈ t.spansFrom offset) (hb : b ∈ t.spansFrom offset) (hab : a.Encloses b) :
    b.StandsFrom (a.start + 1) a.content := by
  obtain ⟨hstart, hstop⟩ := hab
  induction t generalizing offset with
  | empty => simp [spansFrom] at ha
  | literal c rest ih => exact ih ha hb
  | placeholder body rest ihBody ihRest =>
    simp only [spansFrom, List.mem_append, List.mem_cons] at ha hb
    rcases ha with ha | rfl | ha
    · have hstart' := (standsFrom_of_mem ha).offset_lt_start
      have hstop' := (standsFrom_of_mem ha).stop_lt
      rcases hb with hb | rfl | hb
      · exact ihBody ha hb
      · dsimp only at hstart
        omega
      · have := (standsFrom_of_mem hb).offset_lt_start
        have := (standsFrom_of_mem hb).start_lt_stop
        omega
    · rcases hb with hb | rfl | hb
      · exact standsFrom_of_mem hb
      · exact absurd hstart (Nat.lt_irrefl _)
      · have := (standsFrom_of_mem hb).offset_lt_start
        have := (standsFrom_of_mem hb).start_lt_stop
        dsimp only at hstop
        omega
    · have hstart' := (standsFrom_of_mem ha).offset_lt_start
      rcases hb with hb | rfl | hb
      · have := (standsFrom_of_mem hb).start_lt_stop
        have := (standsFrom_of_mem hb).stop_lt
        omega
      · dsimp only at hstart
        omega
      · exact ihRest ha hb

end Template

end Interpolation
