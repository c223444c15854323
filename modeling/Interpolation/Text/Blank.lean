import Interpolation.Text.Basic
import Interpolation.Text.CharSet

/-!
Blank characters and the removal of them.
-/
namespace Interpolation

/-- The characters with the property White_Space. The information separators U+001C to U+001F, the
zero width space and the byte order mark are not among them. -/
def blanks : CharSet :=
  [(0x9, 0xD), (0x20, 0x20), (0x85, 0x85), (0xA0, 0xA0), (0x1680, 0x1680), (0x2000, 0x200A),
   (0x2028, 0x2029), (0x202F, 0x202F), (0x205F, 0x205F), (0x3000, 0x3000)]

def isBlank (c : Char) : Bool :=
  blanks.contains c

namespace Text

def squeeze (t : Text) : Text :=
  t.filter fun c => !isBlank c

@[simp] theorem squeeze_append (s t : Text) : squeeze (s ++ t) = squeeze s ++ squeeze t := by
  simp [squeeze]

theorem squeeze_eq_self_iff {t : Text} : squeeze t = t ↔ ∀ c ∈ t, isBlank c = false := by
  simp [squeeze, List.filter_eq_self]

theorem squeeze_cons_of_isBlank {c : Char} (hc : isBlank c = true) (t : Text) :
    squeeze (c :: t) = squeeze t :=
  List.filter_cons_of_neg (by simp [hc])

theorem squeeze_cons_of_not_isBlank {c : Char} (hc : isBlank c = false) (t : Text) :
    squeeze (c :: t) = c :: squeeze t :=
  List.filter_cons_of_pos (by simp [hc])

theorem squeeze_reverse (t : Text) : squeeze t.reverse = (squeeze t).reverse :=
  List.filter_reverse

theorem squeeze_squeeze (t : Text) : squeeze (squeeze t) = squeeze t := by
  rw [squeeze_eq_self_iff]
  intro c hc
  simpa using (List.mem_filter.1 hc).2

/-- `t` without the blank characters at its front. -/
def dropBlanks (t : Text) : Text :=
  t.dropWhile isBlank

/-- `t` without the blank characters at its end. -/
def dropTrailingBlanks (t : Text) : Text :=
  (dropBlanks t.reverse).reverse

end Text

end Interpolation
