/-!
Texts and their byte offsets, which count the bytes of the UTF-8 form that stand before them.
-/
namespace Interpolation

/-- A finite sequence of Unicode scalar values. -/
abbrev Text := List Char

namespace Text

/-- The number of bytes of the UTF-8 form. -/
def byteLength : Text → Nat
  | [] => 0
  | c :: rest => c.utf8Size + byteLength rest

@[simp] theorem byteLength_nil : byteLength [] = 0 := rfl

@[simp] theorem byteLength_cons (c : Char) (t : Text) :
    byteLength (c :: t) = c.utf8Size + byteLength t := rfl

@[simp] theorem byteLength_append (s t : Text) :
    byteLength (s ++ t) = byteLength s + byteLength t := by
  induction s with
  | nil => simp
  | cons c s ih => simp [ih, Nat.add_assoc]

/-- The parts of `t` before and after byte offset `n`, when `n` is a character boundary of `t`. -/
def splitAt? : Text → Nat → Option (Text × Text)
  | t, 0 => some ([], t)
  | [], _ + 1 => none
  | c :: rest, n + 1 =>
    if c.utf8Size ≤ n + 1 then
      (splitAt? rest (n + 1 - c.utf8Size)).map fun (before, after) => (c :: before, after)
    else none

@[simp] theorem splitAt?_zero (t : Text) : splitAt? t 0 = some ([], t) := by
  cases t <;> rfl

theorem splitAt?_eq_some_iff {t before after : Text} {n : Nat} :
    splitAt? t n = some (before, after) ↔ before ++ after = t ∧ byteLength before = n := by
  induction t generalizing before n with
  | nil =>
    cases n with
    | zero => cases before <;> simp [eq_comm]
    | succ n => cases before <;> simp [splitAt?]
  | cons c t ih =>
    cases n with
    | zero =>
      cases before with
      | nil => simp [eq_comm]
      | cons d before =>
        have := d.utf8Size_pos
        simp; omega
    | succ n =>
      cases before with
      | nil =>
        simp only [splitAt?]
        split <;> simp
      | cons d before =>
        have := d.utf8Size_pos
        simp only [splitAt?]
        split
        · rename_i h
          simp only [Option.map_eq_some_iff, Prod.exists, Prod.mk.injEq, List.cons.injEq,
            List.cons_append, byteLength_cons]
          constructor
          · rintro ⟨b, a, hs, ⟨rfl, rfl⟩, rfl⟩
            obtain ⟨rfl, hn⟩ := ih.1 hs
            exact ⟨⟨rfl, rfl⟩, by omega⟩
          · rintro ⟨⟨rfl, rfl⟩, hn⟩
            exact ⟨before, after, ih.2 ⟨rfl, by omega⟩, ⟨rfl, rfl⟩, rfl⟩
        · rename_i h
          simp only [reduceCtorEq, false_iff, not_and, List.cons_append, List.cons.injEq]
          rintro ⟨rfl, -⟩
          simp; omega

/-- The text between two byte offsets. Offsets that are out of range, in the wrong order or inside
a character delimit nothing. -/
def slice? (t : Text) (start stop : Nat) : Option Text := do
  let (upTo, _) ← t.splitAt? stop
  let (_, between) ← upTo.splitAt? start
  return between

theorem slice?_eq_some_iff {t between : Text} {start stop : Nat} :
    slice? t start stop = some between ↔
      ∃ before after, before ++ between ++ after = t ∧
        byteLength before = start ∧ byteLength (before ++ between) = stop := by
  simp only [slice?, Option.bind_eq_bind, Option.bind_eq_some_iff, Prod.exists,
    splitAt?_eq_some_iff, Option.pure_def, Option.some.injEq]
  constructor
  · rintro ⟨upTo, after, ⟨rfl, hstop⟩, before, _, ⟨rfl, hstart⟩, rfl⟩
    exact ⟨before, after, by simp, hstart, hstop⟩
  · rintro ⟨before, after, rfl, hstart, hstop⟩
    exact ⟨before ++ between, after, ⟨by simp, hstop⟩, before, between, ⟨rfl, hstart⟩, rfl⟩

def skip? (literal t : Text) : Option Text :=
  if literal.isPrefixOf t then some (t.drop literal.length) else none

/-- A text without the byte order mark that may stand at its front. -/
def dropMark (t : Text) : Text :=
  (skip? ['\uFEFF'] t).getD t

/-- The pieces of a text between occurrences of a separator, one more than these. -/
def pieces (separator : Char) : Text → List Text
  | [] => [[]]
  | c :: rest =>
    if c = separator then [] :: pieces separator rest
    else match pieces separator rest with
      | [] => [[c]]
      | piece :: more => (c :: piece) :: more

end Text

end Interpolation
