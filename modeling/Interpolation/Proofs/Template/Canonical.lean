import Interpolation.Proofs.Template.Scan

/-!
Templates that are as their texts are read: `parse` is the inverse of `text` there.
-/
namespace Interpolation

theorem Text.append_ne_opening {s t : Text} (hs : ∀ tail, s ≠ '{' :: tail)
    (ht : ∀ tail, t ≠ '{' :: tail) (tail : Text) : s ++ t ≠ '{' :: tail := by
  cases s with
  | nil => exact ht tail
  | cons c s =>
    intro h
    have hc : c = '{' := (List.cons.inj h).1
    exact hs s (hc ▸ rfl)

namespace Template

open Text

/-- No two literal braces of the template are the braces of a placeholder of its text. On the
outermost level openings may stay literal if `unclosed` is set, and closing braces if `stray` is;
after such an opening no closing brace may follow. -/
inductive Canonical : Bool → Bool → Template → Prop
  | empty {unclosed stray : Bool} : Canonical unclosed stray empty
  | literal {unclosed stray : Bool} {c : Char} {rest : Template} (hclose : c ≠ '}')
    (hopen : c = '$' → ∀ tail, rest ≠ literal '{' tail) (h : Canonical unclosed stray rest) :
    Canonical unclosed stray (literal c rest)
  | opening {stray : Bool} {rest : Template} (h : Canonical true false rest) :
    Canonical true stray (literal '$' (literal '{' rest))
  | closing {unclosed : Bool} {rest : Template} (h : Canonical unclosed true rest) :
    Canonical unclosed true (literal '}' rest)
  | placeholder {unclosed stray : Bool} {body rest : Template} (hbody : Canonical false false body)
    (h : Canonical unclosed stray rest) : Canonical unclosed stray (placeholder body rest)

theorem text_ne_opening {t : Template} (h : ∀ tail, t ≠ literal '{' tail) (tail : Text) :
    t.text ≠ '{' :: tail := by
  cases t with
  | empty => simp [text]
  | literal c rest =>
    intro htext
    have hc : c = '{' := (List.cons.inj htext).1
    exact h rest (hc ▸ rfl)
  | placeholder body rest => simp [text]

theorem text_placeholder (body rest : Template) :
    (placeholder body rest).text = '$' :: '{' :: (body.text ++ '}' :: rest.text) := by
  rw [text, List.cons_append, List.cons_append]

theorem parseFrom_cons (enclosing : List Template) (current : Template) {c : Char} {rest : Text}
    (hclose : c ≠ '}') (hopen : c = '$' → ∀ tail, rest ≠ '{' :: tail) :
    parseFrom enclosing current (c :: rest) =
      parseFrom enclosing (current ++ literal c empty) rest := by
  rw [parseFrom]
  · exact fun tail hc hrest => hopen hc tail hrest
  · exact hclose

/-- Reading the text of a canonical template adds the template to what was read before. Openings
that stay unclosed need the text to end with it, stray closing braces that nothing is open. -/
theorem Canonical.parseFrom_text_append {unclosed stray : Bool} {t : Template}
    (h : t.Canonical unclosed stray) (enclosing : List Template) (current : Template) (rest : Text)
    (hunclosed : unclosed = true → rest = []) (hstray : stray = true → enclosing = [])
    (hrest : ∀ tail, rest ≠ '{' :: tail) :
    parseFrom enclosing current (t.text ++ rest) = parseFrom enclosing (current ++ t) rest := by
  induction h generalizing enclosing current rest with
  | empty => rw [text, List.nil_append, append_empty]
  | @literal unclosed stray c tail hclose hopen h ih =>
    have hhead : c = '$' → ∀ more, tail.text ++ rest ≠ '{' :: more :=
      fun hc => append_ne_opening (text_ne_opening (hopen hc)) hrest
    rw [text, List.cons_append, parseFrom_cons enclosing current hclose hhead,
      ih _ _ _ hunclosed hstray hrest, append_assoc, literal_append, empty_append]
  | @opening stray tail h ih =>
    have hread := ih (current :: enclosing) .empty rest hunclosed (by simp) hrest
    obtain rfl := hunclosed rfl
    rw [List.append_nil, empty_append] at hread
    -- At the end of the text the opening becomes literal on either side.
    calc parseFrom enclosing current ((Template.literal '$' (.literal '{' tail)).text ++ [])
        = parseFrom (current :: enclosing) .empty tail.text := by
          rw [List.append_nil, text, text, parseFrom]
      _ = parseFrom (current :: enclosing) tail [] := hread
      _ = parseFrom enclosing (current ++ .literal '$' (.literal '{' tail)) [] := by
          rw [parseFrom, parseFrom]
          rfl
  | @closing unclosed tail h ih =>
    obtain rfl := hstray rfl
    rw [text, List.cons_append, parseFrom, ih _ _ _ hunclosed hstray hrest, append_assoc,
      literal_append, empty_append]
  | @placeholder unclosed stray body tail hbody h ihBody ih =>
    have hread := ihBody (current :: enclosing) .empty ('}' :: (tail.text ++ rest))
      (by simp) (by simp) (by simp)
    rw [text_placeholder, List.cons_append, List.cons_append, List.append_assoc, List.cons_append,
      parseFrom, hread, empty_append, parseFrom, ih _ _ _ hunclosed hstray hrest,
      append_assoc, placeholder_append, empty_append]

/-- A canonical template is what its text is read as. -/
theorem Canonical.parse_text {t : Template} (h : t.Canonical true true) : parse t.text = t := by
  have hread := h.parseFrom_text_append [] .empty [] (fun _ => rfl) (fun _ => rfl) (by simp)
  rw [List.append_nil, empty_append] at hread
  rw [parse, hread, parseFrom]
  rfl

/-- The first stray closing brace has a closed template before it. -/
theorem Canonical.stray_cases {unclosed : Bool} {t : Template} (h : t.Canonical unclosed true) :
    t.Canonical unclosed false ∨ ∃ body rest : Template, t = body ++ Template.literal '}' rest ∧
      body.Canonical false false ∧ rest.Canonical unclosed true := by
  generalize hs : true = stray at h
  induction h with
  | empty => exact .inl .empty
  | @literal unclosed stray c tail hclose hopen h ih =>
    rcases ih hs with hclosed | ⟨body, rest, rfl, hbody, hrest⟩
    · exact .inl (.literal hclose hopen hclosed)
    · refine .inr ⟨.literal c body, rest, rfl, .literal hclose ?_ hbody, hrest⟩
      rintro hc more rfl
      exact hopen hc _ rfl
  | opening h => exact .inl (.opening h)
  | @closing unclosed tail h ih => exact .inr ⟨.empty, tail, rfl, .empty, h⟩
  | @placeholder unclosed stray inner tail hinner h ihInner ih =>
    rcases ih hs with hclosed | ⟨body, rest, rfl, hbody, hrest⟩
    · exact .inl (.placeholder hinner hclosed)
    · exact .inr ⟨.placeholder inner body, rest, rfl, .placeholder hinner hbody, hrest⟩

/-- Every text is the text of a canonical template. The template is built from the last character
on: a new opening takes the first stray closing brace after it, if there is one. -/
theorem exists_canonical (s : Text) : ∃ t : Template, t.Canonical true true ∧ t.text = s := by
  induction s with
  | nil => exact ⟨empty, .empty, rfl⟩
  | cons c s ih =>
    obtain ⟨t, ht, rfl⟩ := ih
    by_cases hclose : c = '}'
    · subst hclose
      exact ⟨literal '}' t, .closing ht, rfl⟩
    by_cases hopen : c = '$' ∧ ∃ tail, t = literal '{' tail
    · obtain ⟨rfl, tail, rfl⟩ := hopen
      cases ht with
      | literal _ _ ht =>
        rcases ht.stray_cases with hopening | ⟨body, rest, rfl, hbody, hrest⟩
        · exact ⟨_, .opening hopening, rfl⟩
        · exact ⟨placeholder body rest, .placeholder hbody hrest, by simp [text]⟩
    · refine ⟨literal c t, .literal hclose ?_ ht, rfl⟩
      exact fun hc tail htail => hopen ⟨hc, tail, htail⟩

theorem canonical_parse (s : Text) : (parse s).Canonical true true := by
  obtain ⟨t, ht, rfl⟩ := exists_canonical s
  rwa [ht.parse_text]

/-- The placeholders of a canonical template are those found in its text. -/
theorem Canonical.scan_text {t : Template} (h : t.Canonical true true) : scan t.text = t.spans := by
  rw [← spans_parse, h.parse_text]

end Template

end Interpolation
