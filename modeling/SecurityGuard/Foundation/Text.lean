import Mathlib.Data.List.Basic
import Mathlib.Data.String.Basic
import Std.Data.String.ToInt

/-!
# Texts built from separators and decimal numerals

A numeral holds digits and perhaps a minus sign, so a separator that is neither ends it: a text
followed by the separator and a numeral determines the text and the number.
-/

namespace Text

/-- Characters that a decimal numeral never contains. -/
def Separator (mark : Char) : Prop := mark.isDigit = false ∧ mark ≠ '-'

instance (mark : Char) : Decidable (Separator mark) := inferInstanceAs (Decidable (_ ∧ _))

theorem not_mem_repr {mark : Char} (separator : Separator mark) (value : Nat) :
    mark ∉ value.repr.toList := by
  intro mem
  rw [Nat.toList_repr] at mem
  have digit : mark.isDigit = true := Nat.isDigit_of_mem_toDigits (by omega) (by omega) mem
  exact absurd digit (by simp [separator.1])

theorem not_mem_toString {mark : Char} (separator : Separator mark) (value : Int) :
    mark ∉ (toString value).toList := by
  cases value with
  | ofNat value => exact not_mem_repr separator value
  | negSucc value =>
      change mark ∉ ("-" ++ value.succ.repr).toList
      simp only [String.toList_append, List.mem_append, not_or]
      exact ⟨by simpa using separator.2, not_mem_repr separator value.succ⟩

/-- The last occurrence of a mark splits a list in one way. -/
theorem append_mark_inj {mark : Char} {front front' back back' : List Char}
    (absent : mark ∉ back) (absent' : mark ∉ back')
    (same : front ++ mark :: back = front' ++ mark :: back') : front = front' ∧ back = back' := by
  induction front generalizing front' with
  | nil =>
      cases front' with
      | nil => simpa using same
      | cons head rest =>
          obtain ⟨-, tail⟩ := List.cons.inj same
          exact absurd (by simp) (tail ▸ absent)
  | cons head rest ih =>
      cases front' with
      | nil =>
          obtain ⟨-, tail⟩ := List.cons.inj same
          exact absurd (by simp) (tail ▸ absent')
      | cons head' rest' =>
          obtain ⟨heads, tails⟩ := List.cons.inj same
          obtain ⟨fronts, backs⟩ := ih tails
          exact ⟨by rw [heads, fronts], backs⟩

theorem toString_injective {left right : Int} (same : toString left = toString right) :
    left = right :=
  Int.repr_injective same

theorem append_numeral_inj {front front' : String} {mark : Char} {value value' : Int}
    (separator : Separator mark)
    (same : front ++ String.singleton mark ++ toString value =
      front' ++ String.singleton mark ++ toString value') :
    front = front' ∧ value = value' := by
  have characters := congrArg String.toList same
  simp only [String.toList_append, String.toList_singleton, List.append_assoc,
    List.singleton_append] at characters
  obtain ⟨fronts, backs⟩ := append_mark_inj (not_mem_toString separator value)
    (not_mem_toString separator value') characters
  exact ⟨String.toList_inj.mp fronts, toString_injective (String.toList_inj.mp backs)⟩

/-- Read a number that consists of digits. -/
def readDigits (digits : List Char) : Option Nat :=
  if digits ≠ [] ∧ digits.all Char.isDigit then some (Nat.ofDigitChars 10 digits 0) else none

/-- The integer of a text of decimal digits, which a sign may precede. -/
def readInteger (text : String) : Option Int :=
  if text.toList.head? = some '-' then (readDigits text.toList.tail).map fun value => -(value : Int)
  else if text.toList.head? = some '+' then (readDigits text.toList.tail).map Int.ofNat
  else (readDigits text.toList).map Int.ofNat

theorem readDigits_repr (value : Nat) : readDigits value.repr.toList = some value := by
  have digits : (Nat.toDigits 10 value).all Char.isDigit = true := by
    rw [List.all_eq_true]
    intro digit mem
    exact Nat.isDigit_of_mem_toDigits (by omega) (by omega) mem
  rw [Nat.toList_repr, readDigits, if_pos ⟨Nat.toDigits_ne_nil, digits⟩,
    Nat.ofDigitChars_ten_toDigits]

/-- Reading undoes printing. -/
theorem readInteger_toString (value : Int) : readInteger (toString value) = some value := by
  cases value with
  | ofNat value =>
      have unsigned {mark : Char} (separator : mark.isDigit = false) :
          value.repr.toList.head? ≠ some mark := by
        intro first
        have mem : mark ∈ Nat.toDigits 10 value :=
          List.mem_of_mem_head? (Nat.toList_repr ▸ first)
        have digit := Nat.isDigit_of_mem_toDigits (by omega) (by omega) mem
        exact absurd digit (by simp [separator])
      change readInteger value.repr = some (value : Int)
      rw [readInteger, if_neg (unsigned (by decide)), if_neg (unsigned (by decide)),
        readDigits_repr]
      rfl
  | negSucc value =>
      change readInteger ("-" ++ value.succ.repr) = some (Int.negSucc value)
      rw [readInteger, String.toList_append, if_pos (by rfl)]
      change (readDigits value.succ.repr.toList).map (fun value => -(value : Int)) = _
      rw [readDigits_repr]
      rfl

/-- The words of a text, which single blanks separate. -/
def words (text : String) : List (List Char) := text.toList.splitOn ' '

theorem words_append_blank {word : String} (whole : ' ' ∉ word.toList) (text : String) :
    words (word ++ " " ++ text) = word.toList :: words text := by
  rw [words, words, String.toList_append, String.toList_append, List.append_assoc]
  exact List.splitOn_append_cons_self_of_not_mem whole text.toList

/-- The lines of a text whose lines end with a mark, except perhaps the last one. -/
def split (mark : Char) (text : String) : List String :=
  let pieces := text.toList.splitOn mark
  (if pieces.getLast? = some [] then pieces.dropLast else pieces).map String.ofList

/-- Splitting undoes joining, for items that are neither empty nor hold the mark. -/
theorem split_intercalate {mark : Char} {items : List String}
    (whole : ∀ item ∈ items, mark ∉ item.toList ∧ item ≠ "") :
    split mark ((String.singleton mark).intercalate items) = items := by
  rcases List.eq_nil_or_concat' items with rfl | ⟨front, last, rfl⟩
  · simp [split]
  · have pieces : ((String.singleton mark).intercalate (front ++ [last])).toList.splitOn mark =
        (front ++ [last]).map String.toList := by
      rw [String.toList_intercalate, String.toList_singleton]
      refine List.splitOn_intercalate mark ?_ (by simp)
      intro piece mem
      obtain ⟨item, inside, rfl⟩ := List.mem_map.mp mem
      exact (whole item inside).1
    have filled : last ≠ "" := (whole last (by simp)).2
    rw [split, pieces]
    simp [filled, Function.comp_def]

theorem toString_ne_empty (value : Int) : toString value ≠ "" := by
  cases value with
  | ofNat value => exact Nat.repr_ne_empty
  | negSucc value =>
      change "-" ++ value.succ.repr ≠ ""
      simp

theorem split_numerals {mark : Char} (separator : Separator mark) (values : List Int) :
    split mark ((String.singleton mark).intercalate (values.map toString)) =
      values.map toString := by
  refine split_intercalate ?_
  intro item mem
  obtain ⟨value, -, rfl⟩ := List.mem_map.mp mem
  exact ⟨not_mem_toString separator value, toString_ne_empty value⟩

end Text
