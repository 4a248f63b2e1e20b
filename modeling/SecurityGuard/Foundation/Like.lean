import SecurityGuard.Foundation.Sql

/-!
# What LIKE matches

The function that decides a pattern is read as a relation between patterns and texts.  The
relation splits where a pattern is put together, so a pattern between two `%` is one that some
part of the text matches.
-/

namespace Sql

/-- A character that stands for itself in a pattern, up to the case of a letter. -/
def Plain (mark : Char) : Prop := mark ≠ '%' ∧ mark ≠ '_'

/-- A text matches a pattern. -/
inductive Likes : List Char → List Char → Prop
  | nil : Likes [] []
  | any {rest back : List Char} (front : List Char) (tail : Likes rest back) :
      Likes ('%' :: rest) (front ++ back)
  | one {rest back : List Char} (first : Char) (tail : Likes rest back) :
      Likes ('_' :: rest) (first :: back)
  | letter {rest back : List Char} {mark first : Char} (plain : Plain mark)
      (same : mark.toLower = first.toLower) (tail : Likes rest back) :
      Likes (mark :: rest) (first :: back)

theorem likes_nil {text : List Char} : Likes [] text ↔ text = [] := by
  constructor
  · rintro ⟨⟩
    rfl
  · rintro rfl
    exact .nil

theorem likes_percent {rest text : List Char} :
    Likes ('%' :: rest) text ↔ ∃ front back, text = front ++ back ∧ Likes rest back := by
  constructor
  · intro matched
    cases matched with
    | any front tail => exact ⟨front, _, rfl, tail⟩
    | letter plain _ _ => exact absurd rfl plain.1
  · rintro ⟨front, back, rfl, tail⟩
    exact .any front tail

theorem likes_underscore {rest text : List Char} :
    Likes ('_' :: rest) text ↔ ∃ first back, text = first :: back ∧ Likes rest back := by
  constructor
  · intro matched
    cases matched with
    | one first tail => exact ⟨first, _, rfl, tail⟩
    | letter plain _ _ => exact absurd rfl plain.2
  · rintro ⟨first, back, rfl, tail⟩
    exact .one first tail

theorem likes_letter {mark : Char} (plain : Plain mark) {rest text : List Char} :
    Likes (mark :: rest) text ↔
      ∃ first back, text = first :: back ∧ mark.toLower = first.toLower ∧ Likes rest back := by
  constructor
  · intro matched
    cases matched with
    | any _ _ => exact absurd rfl plain.1
    | one _ _ => exact absurd rfl plain.2
    | letter _ same tail => exact ⟨_, _, rfl, same, tail⟩
  · rintro ⟨first, back, rfl, same, tail⟩
    exact .letter plain same tail

/-- The function decides the relation. -/
theorem like_iff (pattern text : List Char) : like pattern text = true ↔ Likes pattern text := by
  induction pattern generalizing text with
  | nil => rw [like, List.isEmpty_iff, likes_nil]
  | cons mark rest ih =>
      by_cases percent : mark = '%'
      · subst percent
        rw [like, List.any_eq_true, likes_percent]
        constructor
        · rintro ⟨back, suffix, matched⟩
          obtain ⟨front, rfl⟩ := (List.mem_tails back text).mp suffix
          exact ⟨front, back, rfl, (ih back).mp matched⟩
        · rintro ⟨front, back, rfl, matched⟩
          exact ⟨back, (List.mem_tails _ _).mpr (List.suffix_append front back),
            (ih back).mpr matched⟩
      · by_cases underscore : mark = '_'
        · subst underscore
          rw [like, likes_underscore]
          cases text with
          | nil => simp
          | cons first back => simp [ih]
        · rw [like, likes_letter ⟨percent, underscore⟩]
          · cases text with
            | nil => simp
            | cons first back => simp [ih]
          · exact percent
          · exact underscore

/-- A pattern that is put together of two is matched part by part. -/
theorem likes_append {front back text : List Char} :
    Likes (front ++ back) text ↔ ∃ left right, text = left ++ right ∧ Likes front left ∧
      Likes back right := by
  induction front generalizing text with
  | nil =>
      constructor
      · exact fun matched => ⟨[], text, rfl, .nil, matched⟩
      · rintro ⟨left, right, rfl, empty, matched⟩
        rwa [likes_nil.mp empty]
  | cons mark rest ih =>
      constructor
      · intro matched
        cases matched with
        | any skipped tail =>
            obtain ⟨left, right, rfl, first, second⟩ := ih.mp tail
            exact ⟨skipped ++ left, right, (List.append_assoc ..).symm, .any skipped first, second⟩
        | one first tail =>
            obtain ⟨left, right, rfl, matched, second⟩ := ih.mp tail
            exact ⟨first :: left, right, rfl, .one first matched, second⟩
        | letter plain same tail =>
            obtain ⟨left, right, rfl, matched, second⟩ := ih.mp tail
            exact ⟨_ :: left, right, rfl, .letter plain same matched, second⟩
      · rintro ⟨left, right, rfl, matched, second⟩
        cases matched with
        | any skipped tail =>
            rw [List.append_assoc]
            exact .any skipped (ih.mpr ⟨_, right, rfl, tail, second⟩)
        | one first tail => exact .one first (ih.mpr ⟨_, right, rfl, tail, second⟩)
        | letter plain same tail =>
            exact .letter plain same (ih.mpr ⟨_, right, rfl, tail, second⟩)

theorem likes_between {pattern text : List Char} :
    Likes ('%' :: pattern ++ ['%']) text ↔
      ∃ front middle back, text = front ++ middle ++ back ∧ Likes pattern middle := by
  rw [List.cons_append, likes_percent]
  constructor
  · rintro ⟨front, _, rfl, matched⟩
    obtain ⟨middle, back, rfl, inner, -⟩ := likes_append.mp matched
    exact ⟨front, middle, back, (List.append_assoc ..).symm, inner⟩
  · rintro ⟨front, middle, back, rfl, inner⟩
    have rest : Likes ['%'] back := likes_percent.mpr ⟨back, [], (List.append_nil back).symm, .nil⟩
    exact ⟨front, middle ++ back, List.append_assoc .., likes_append.mpr
      ⟨middle, back, rfl, inner, rest⟩⟩

/-- A pattern of plain characters is matched by its text in any case. -/
theorem likes_plain {pattern text : List Char} (plain : ∀ mark ∈ pattern, Plain mark) :
    Likes pattern text ↔ text.map Char.toLower = pattern.map Char.toLower := by
  induction pattern generalizing text with
  | nil => rw [likes_nil, List.map_nil, List.map_eq_nil_iff]
  | cons mark rest ih =>
      have others : ∀ mark ∈ rest, Plain mark := fun mark mem =>
        plain mark (List.mem_cons_of_mem _ mem)
      rw [likes_letter (plain mark List.mem_cons_self)]
      constructor
      · rintro ⟨first, back, rfl, same, tail⟩
        rw [List.map_cons, List.map_cons, same, (ih others).mp tail]
      · intro same
        cases text with
        | nil => simp at same
        | cons first back =>
            obtain ⟨head, tail⟩ := List.cons_eq_cons.mp same
            exact ⟨first, back, rfl, head.symm, (ih others).mpr tail⟩

theorem likes_plain_part {pattern text : List Char} (plain : ∀ mark ∈ pattern, Plain mark) :
    (∃ front middle back, text = front ++ middle ++ back ∧ Likes pattern middle) ↔
      pattern.map Char.toLower <:+: text.map Char.toLower := by
  constructor
  · rintro ⟨front, middle, back, rfl, matched⟩
    rw [List.map_append, List.map_append, (likes_plain plain).mp matched]
    exact ⟨_, _, rfl⟩
  · rintro ⟨front, back, whole⟩
    obtain ⟨most, back, rfl, same, -⟩ := List.map_eq_append_iff.mp whole.symm
    obtain ⟨front, middle, rfl, -, matched⟩ := List.map_eq_append_iff.mp same
    exact ⟨front, middle, back, rfl, (likes_plain plain).mpr matched⟩

end Sql
