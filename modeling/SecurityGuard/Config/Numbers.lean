import Mathlib.Data.List.TakeWhile
import SecurityGuard.Config.Json
import SecurityGuard.Foundation.Numeral
import SecurityGuard.Foundation.Text

/-!
# Numbers in texts

`StrToU32`, `StrToI64` and `StrToI64Hex` wrap the conversions of the C library.  A conversion
reads a number at the front of a text and says where it stopped; the wrappers ask for a number
that takes up the whole text.  They see a text only up to its first zero character, and the
unsigned conversion turns a negative number around, so `StrToU32` accepts some numbers far below
zero.
-/

namespace SecurityGuard

/-- A text up to its first zero character, as `c_str` shows it to C. -/
def cStr (text : String) : List Char := text.toList.takeWhile fun char => char.toNat ≠ 0

/-! ## The C library -/

/-- What a conversion leaves: its number, the text at the end pointer, and whether `errno` is
`ERANGE`. -/
structure Conversion where
  value : Int
  rest : List Char
  erange : Bool := false

/-- Whether a text begins with a minus sign, and what follows its sign. -/
def readSign (text : List Char) : Bool × List Char :=
  if text.head? = some '-' then (true, text.tail)
  else if text.head? = some '+' then (false, text.tail)
  else (false, text)

/-- The sign and the magnitude of the number at the front of a text, and what follows it. -/
def scanNumber (base : Nat) (text : List Char) : Option (Bool × Nat × List Char) :=
  let unsigned := readSign (text.dropWhile isSpace)
  let scanned := Numeral.scan (digitValue base) (dropHexMark base unsigned.2)
  if scanned.1 = [] then none
  else some (unsigned.1, Numeral.value base scanned.1, scanned.2)

/-- A number from its sign and its magnitude. -/
def signed (negative : Bool) (magnitude : Nat) : Int :=
  if negative then -magnitude else magnitude

/-- Without a number the end pointer stays at the beginning. -/
def strtoll (text : List Char) (base : Nat) : Conversion :=
  match scanNumber base text with
  | none => { value := 0, rest := text }
  | some (negative, magnitude, rest) =>
      let value := signed negative magnitude
      if value < -2 ^ 63 then { value := -2 ^ 63, rest, erange := true }
      else if 2 ^ 63 ≤ value then { value := 2 ^ 63 - 1, rest, erange := true }
      else { value, rest }

/-- A number with a minus sign is negated in the 64 bits of the result. -/
def strtoull (text : List Char) (base : Nat) : Conversion :=
  match scanNumber base text with
  | none => { value := 0, rest := text }
  | some (negative, magnitude, rest) =>
      if 2 ^ 64 ≤ magnitude then { value := 2 ^ 64 - 1, rest, erange := true }
      else { value := signed negative magnitude % 2 ^ 64, rest }

namespace SecurityGuardUtils

/-- The checks that `StrToLL` and `StrToULL` make of a conversion with these limits. -/
def checkConversion (limits : List Int) (add : List Char) (converted : Conversion) : Bool × Int :=
  if converted.erange ∧ converted.value ∈ limits ∨ converted.erange ∧ converted.value = 0 then
    (false, converted.value)
  -- no digit is found
  else if converted.rest.length = add.length then (false, converted.value)
  -- there is more than digits
  else if converted.rest ≠ [] then (false, converted.value)
  else (true, converted.value)

/-- Read a number of 64 bits with a sign. -/
def strToLL (str : String) (base : Nat) : Bool × Int :=
  if str = "" then (false, 0)
  else checkConversion [2 ^ 63 - 1, -2 ^ 63] (cStr str) (strtoll (cStr str) base)

/-- Read a number of 64 bits without a sign. -/
def strToULL (str : String) : Bool × Int :=
  if str = "" then (false, 0)
  else checkConversion [2 ^ 64 - 1] (cStr str) (strtoull (cStr str) 10)

/-- Whether the text is accepted, with the value that is written. -/
def strToU32 (str : String) : Bool × Int :=
  let tmp := strToULL str
  (tmp.1 && decide (tmp.2 ≤ 2 ^ 32 - 1), tmp.2 % 2 ^ 32)

/-- Read a number in base ten. -/
def strToI64 (str : String) : Bool × Int :=
  let tmp := strToLL str 10
  (tmp.1 && decide (-2 ^ 63 ≤ tmp.2 ∧ tmp.2 ≤ 2 ^ 63 - 1), tmp.2)

/-- Whether a text is in base sixteen. -/
def startsWithHexMark (str : String) : Bool := str.toList.take 2 = ['0', 'x']

/-- Read a number, in base sixteen if the text is marked. -/
def strToI64Hex (str : String) : Bool × Int :=
  let tmp := if startsWithHexMark str then strToLL str 16 else strToLL str 10
  (tmp.1 && decide (-2 ^ 63 ≤ tmp.2 ∧ tmp.2 ≤ 2 ^ 63 - 1), tmp.2)

end SecurityGuardUtils

/-- A text is one number: blanks, a sign, the mark of base sixteen, and digits. -/
inductive IsNumber (base : Nat) : List Char → Bool → Nat → Prop where
  | intro (blanks sign mark digits : List Char) (values : List Nat)
      (spaces : ∀ char ∈ blanks, isSpace char = true)
      (signs : sign = [] ∨ sign = ['+'] ∨ sign = ['-'])
      (marks : mark = [] ∨ base = 16 ∧ (mark = ['0', 'x'] ∨ mark = ['0', 'X']))
      (some_digit : digits ≠ []) (all_digits : digits.mapM (digitValue base) = some values) :
      IsNumber base (blanks ++ (sign ++ (mark ++ digits))) (sign = ['-'])
        (Numeral.value base values)

/-- A text is the decimal numeral, or the one in another base, of an integer. -/
def Denotes (base : Nat) (text : List Char) (value : Int) : Prop :=
  ∃ negative magnitude, IsNumber base text negative magnitude ∧ value = signed negative magnitude

section Characters

variable {base : Nat} {char : Char} {value : Nat}

/-- A digit is none of the other characters of a number. -/
theorem digitValue_plain (digit : digitValue base char = some value) :
    isSpace char = false ∧ char ≠ '-' ∧ char ≠ '+' ∧ char ≠ 'x' ∧ char ≠ 'X' ∧ char.toNat ≠ 0 := by
  have shown : ('0' ≤ char ∧ char ≤ '9') ∨ ('a' ≤ char ∧ char ≤ 'f') ∨
      ('A' ≤ char ∧ char ≤ 'F') := by
    by_contra other
    rw [not_or, not_or] at other
    simp [digitValue, other.1, other.2.1, other.2.2] at digit
  have code : (48 ≤ char.toNat ∧ char.toNat ≤ 57) ∨ (97 ≤ char.toNat ∧ char.toNat ≤ 102) ∨
      (65 ≤ char.toNat ∧ char.toNat ≤ 70) := shown
  have other {mark : Char} (differs : char.toNat ≠ mark.toNat) : char ≠ mark := by
    rintro rfl
    exact differs rfl
  refine ⟨?_, other ?_, other ?_, other ?_, other ?_, ?_⟩
  · rw [isSpace, decide_eq_false_iff_not, not_or]
    exact ⟨other (by change char.toNat ≠ 32; omega), by omega⟩
  · change char.toNat ≠ 45
    omega
  · change char.toNat ≠ 43
    omega
  · change char.toNat ≠ 120
    omega
  · change char.toNat ≠ 88
    omega
  · omega

end Characters

section Scan

variable {base : Nat} {text digits : List Char} {values : List Nat} {negative : Bool}
  {magnitude : Nat}

theorem digits_head (all_digits : digits.mapM (digitValue base) = some values) {char : Char}
    (first : char ∈ digits.head?) : ∃ value, digitValue base char = some value :=
  Option.isSome_iff_exists.mp
    (Numeral.isSome_of_mapM all_digits (List.mem_of_mem_head? first))

/-- Digits do not begin with the mark of base sixteen. -/
theorem dropHexMark_digits (all_digits : digits.mapM (digitValue base) = some values) :
    dropHexMark base digits = digits := by
  match digits with
  | [] | [_] | [_, _] => rfl
  | zero :: mark :: digit :: rest =>
      have inside : mark ∈ zero :: mark :: digit :: rest := by simp
      obtain ⟨value, found⟩ := Option.isSome_iff_exists.mp
        (Numeral.isSome_of_mapM all_digits inside)
      obtain ⟨-, -, -, small, large, -⟩ := digitValue_plain found
      rw [dropHexMark, if_neg]
      rintro ⟨-, -, marked, -⟩
      exact marked.elim small large

theorem dropHexMark_marked {mark : Char} (marked : mark = 'x' ∨ mark = 'X')
    (some_digit : digits ≠ []) (all_digits : digits.mapM (digitValue 16) = some values) :
    dropHexMark 16 ('0' :: mark :: digits) = digits := by
  obtain ⟨digit, rest, rfl⟩ := List.exists_cons_of_ne_nil some_digit
  have isDigit := Numeral.isSome_of_mapM all_digits (List.mem_cons_self (a := digit))
  rw [dropHexMark, if_pos ⟨rfl, rfl, marked, isDigit⟩]

theorem dropHexMark_cases (base : Nat) (text : List Char) :
    dropHexMark base text = text ∨
      base = 16 ∧ (text = ['0', 'x'] ++ dropHexMark base text ∨
        text = ['0', 'X'] ++ dropHexMark base text) := by
  match text with
  | [] | [_] | [_, _] => exact .inl rfl
  | zero :: mark :: digit :: rest =>
      rw [dropHexMark]
      split_ifs with marked
      · obtain ⟨hex, rfl, rfl | rfl, -⟩ := marked
        · exact .inr ⟨hex, .inl rfl⟩
        · exact .inr ⟨hex, .inr rfl⟩
      · exact .inl rfl

theorem readSign_cases (text : List Char) :
    ∃ sign : List Char, (sign = [] ∨ sign = ['+'] ∨ sign = ['-']) ∧
      text = sign ++ (readSign text).2 ∧ (readSign text).1 = decide (sign = ['-']) := by
  rw [readSign]
  split_ifs with minus plus
  · exact ⟨['-'], by simp, List.eq_cons_of_mem_head? minus, rfl⟩
  · exact ⟨['+'], by simp, List.eq_cons_of_mem_head? plus, rfl⟩
  · exact ⟨[], by simp, rfl, rfl⟩

theorem readSign_append {sign rest : List Char} {first : Char}
    (signs : sign = [] ∨ sign = ['+'] ∨ sign = ['-']) (minus : first ≠ '-') (plus : first ≠ '+') :
    readSign (sign ++ first :: rest) = (decide (sign = ['-']), first :: rest) := by
  rcases signs with rfl | rfl | rfl <;> simp [readSign, minus, plus]

/-- A text is a number exactly when the scan consumes all of it. -/
theorem scanNumber_eq_iff :
    scanNumber base text = some (negative, magnitude, []) ↔
      IsNumber base text negative magnitude := by
  constructor
  · intro scanned
    rw [scanNumber] at scanned
    split_ifs at scanned with no_digit
    obtain ⟨sign_eq, magnitude_eq, rest_eq⟩ : _ ∧ _ ∧ _ := by
      simpa only [Option.some.injEq, Prod.mk.injEq] using scanned
    obtain ⟨sign, signs, split, minus⟩ := readSign_cases (text.dropWhile isSpace)
    generalize readSign (text.dropWhile isSpace) = unsigned at *
    have all_digits := Numeral.scan_eq_iff.mp (Prod.ext rfl rest_eq)
    have some_digit : dropHexMark base unsigned.2 ≠ [] := by
      intro empty
      rw [empty] at no_digit
      exact no_digit rfl
    have spaces : ∀ char ∈ text.takeWhile isSpace, isSpace char = true :=
      fun char mem => List.mem_takeWhile_imp mem
    have whole : text = text.takeWhile isSpace ++ (sign ++ unsigned.2) := by
      rw [← split, List.takeWhile_append_dropWhile]
    rw [← sign_eq, minus, ← magnitude_eq, whole]
    have number (mark : List Char)
        (marks : mark = [] ∨ base = 16 ∧ (mark = ['0', 'x'] ∨ mark = ['0', 'X'])) :=
      IsNumber.intro _ sign mark _ _ spaces signs marks some_digit all_digits
    rcases dropHexMark_cases base unsigned.2 with same | ⟨hex, same | same⟩
    · have unmarked := number [] (.inl rfl)
      simpa only [List.nil_append, same] using unmarked
    · have marked := number ['0', 'x'] (.inr ⟨hex, .inl rfl⟩)
      rwa [← same] at marked
    · have marked := number ['0', 'X'] (.inr ⟨hex, .inr rfl⟩)
      rwa [← same] at marked
  · rintro ⟨blanks, sign, mark, digits, values, spaces, signs, marks, some_digit, all_digits⟩
    -- what follows the sign begins neither with a blank nor with another sign
    have plain : ∀ char ∈ (mark ++ digits).head?, isSpace char = false ∧ char ≠ '-' ∧
        char ≠ '+' := by
      intro char first
      rcases marks with rfl | ⟨-, rfl | rfl⟩
      · obtain ⟨value, found⟩ := digits_head all_digits first
        obtain ⟨space, minus, plus, -⟩ := digitValue_plain found
        exact ⟨space, minus, plus⟩
      · obtain rfl : '0' = char := by simpa using first
        decide
      · obtain rfl : '0' = char := by simpa using first
        decide
    have unmarked : dropHexMark base (mark ++ digits) = digits := by
      rcases marks with rfl | ⟨rfl, rfl | rfl⟩
      · exact dropHexMark_digits all_digits
      · exact dropHexMark_marked (.inl rfl) some_digit all_digits
      · exact dropHexMark_marked (.inr rfl) some_digit all_digits
    obtain ⟨first, rest, body⟩ : ∃ first rest, mark ++ digits = first :: rest :=
      List.exists_cons_of_ne_nil (by simp [some_digit])
    rw [body, List.head?_cons] at plain
    obtain ⟨space, minus, plus⟩ := plain first rfl
    have unspaced : (blanks ++ (sign ++ (mark ++ digits))).dropWhile isSpace =
        sign ++ (mark ++ digits) := by
      rw [List.dropWhile_append_of_pos spaces, body]
      rcases signs with rfl | rfl | rfl
      · rw [List.nil_append, List.dropWhile_cons_of_neg (by simp [space])]
      · rfl
      · rfl
    have some_value : values ≠ [] := by
      rintro rfl
      exact some_digit (List.eq_nil_of_length_eq_zero (Numeral.mapM_length all_digits).symm)
    rw [scanNumber, unspaced, body, readSign_append signs minus plus, ← body, unmarked,
      Numeral.scan_eq_iff.mpr all_digits, if_neg some_value]

/-- A scan that finds a number consumes some of the text. -/
theorem length_of_scanNumber {rest : List Char}
    (scanned : scanNumber base text = some (negative, magnitude, rest)) :
    rest.length < text.length := by
  rw [scanNumber] at scanned
  split_ifs at scanned with no_digit
  obtain ⟨-, -, rfl⟩ : _ ∧ _ ∧ _ := by
    simpa only [Option.some.injEq, Prod.mk.injEq] using scanned
  obtain ⟨sign, -, split, -⟩ := readSign_cases (text.dropWhile isSpace)
  have unspaced := List.length_dropWhile_le isSpace text
  have unsigned := congrArg List.length split
  rw [List.length_append] at unsigned
  have unmarked : (dropHexMark base (readSign (text.dropWhile isSpace)).2).length ≤
      (readSign (text.dropWhile isSpace)).2.length := by
    rcases dropHexMark_cases base (readSign (text.dropWhile isSpace)).2 with same | ⟨-, same | same⟩
    · rw [same]
    · have := congrArg List.length same
      rw [List.length_append] at this
      omega
    · have := congrArg List.length same
      rw [List.length_append] at this
      omega
  have lengths := @Numeral.length_scan _ (digitValue base)
    (dropHexMark base (readSign (text.dropWhile isSpace)).2)
  have some_digit := List.length_pos_of_ne_nil no_digit
  omega

theorem denotes_iff {value : Int} :
    Denotes base text value ↔ ∃ negative magnitude,
      scanNumber base text = some (negative, magnitude, []) ∧
        value = signed negative magnitude := by
  simp only [Denotes, scanNumber_eq_iff]

theorem Denotes.unique {left right : Int} (first : Denotes base text left)
    (second : Denotes base text right) : left = right := by
  obtain ⟨negative, magnitude, scanned, rfl⟩ := denotes_iff.mp first
  obtain ⟨_, _, same, rfl⟩ := denotes_iff.mp second
  obtain ⟨rfl, rfl, -⟩ : _ ∧ _ ∧ _ := by
    simpa only [Option.some.injEq, Prod.mk.injEq] using scanned.symm.trans same
  rfl

/-- A number has no zero character. -/
theorem Denotes.no_zero {value : Int} (denotes : Denotes base text value) :
    ∀ char ∈ text, char.toNat ≠ 0 := by
  obtain ⟨negative, magnitude, number, -⟩ := denotes
  obtain ⟨blanks, sign, mark, digits, values, spaces, signs, marks, -, all_digits⟩ := number
  intro char mem
  rw [List.mem_append, List.mem_append, List.mem_append] at mem
  rcases mem with blank | own | marked | digit
  · have space := spaces char blank
    rw [isSpace, decide_eq_true_eq] at space
    rcases space with rfl | ⟨low, -⟩
    · decide
    · omega
  · rcases signs with rfl | rfl | rfl
    · exact absurd own List.not_mem_nil
    · rw [List.mem_singleton.mp own]
      decide
    · rw [List.mem_singleton.mp own]
      decide
  · rcases marks with rfl | ⟨-, rfl | rfl⟩
    · exact absurd marked List.not_mem_nil
    all_goals
      rcases List.mem_cons.mp marked with rfl | last
      · decide
      · rw [List.mem_singleton.mp last]
        decide
  · obtain ⟨value, found⟩ := Option.isSome_iff_exists.mp (Numeral.isSome_of_mapM all_digits digit)
    exact (digitValue_plain found).2.2.2.2.2

end Scan

section Wrappers

variable {base : Nat} {str : String} {value : Int}

theorem cStr_eq_toList (whole : ∀ char ∈ str.toList, char.toNat ≠ 0) : cStr str = str.toList :=
  List.takeWhile_eq_self_iff.mpr fun char mem => by simpa using whole char mem

namespace SecurityGuardUtils

theorem checkConversion_of_read {limits : List Int} {add rest : List Char}
    (shorter : rest.length < add.length) (value : Int) :
    checkConversion limits add { value, rest } = (decide (rest = []), value) := by
  rw [checkConversion, if_neg (by simp), if_neg (Nat.ne_of_lt shorter)]
  split_ifs with more
  · rw [decide_eq_false more]
  · rw [decide_eq_true (not_not.mp more)]

theorem checkConversion_of_erange {limits : List Int} {add rest : List Char} {value : Int}
    (limit : value ∈ limits) :
    checkConversion limits add { value, rest, erange := true } = (false, value) := by
  rw [checkConversion, if_pos (.inl ⟨rfl, limit⟩)]

theorem checkConversion_of_none (limits : List Int) (add : List Char) :
    checkConversion limits add { value := 0, rest := add } = (false, 0) := by
  rw [checkConversion, if_neg (by simp), if_pos rfl]

/-- `StrToLL` accepts the texts that denote a number of 64 bits with sign. -/
theorem strToLL_eq_iff :
    strToLL str base = (true, value) ↔
      Denotes base (cStr str) value ∧ -2 ^ 63 ≤ value ∧ value < 2 ^ 63 := by
  rw [denotes_iff, strToLL]
  by_cases empty : str = ""
  · subst empty
    simp [cStr, scanNumber, readSign, dropHexMark, Numeral.scan]
  · rw [if_neg empty, strtoll]
    cases scanned : scanNumber base (cStr str) with
    | none =>
        dsimp only
        rw [checkConversion_of_none]
        simp
    | some found =>
        obtain ⟨negative, magnitude, rest⟩ := found
        have shorter := length_of_scanNumber scanned
        dsimp only
        split_ifs with low high
        · rw [checkConversion_of_erange (by simp)]
          simp only [Prod.mk.injEq, Bool.false_eq_true, false_and, Option.some.injEq, false_iff]
          rintro ⟨⟨_, _, ⟨rfl, rfl, -⟩, rfl⟩, small, -⟩
          omega
        · rw [checkConversion_of_erange (by simp)]
          simp only [Prod.mk.injEq, Bool.false_eq_true, false_and, Option.some.injEq, false_iff]
          rintro ⟨⟨_, _, ⟨rfl, rfl, -⟩, rfl⟩, -, large⟩
          omega
        · rw [checkConversion_of_read shorter]
          simp only [Prod.mk.injEq, decide_eq_true_eq, Option.some.injEq]
          constructor
          · rintro ⟨rfl, rfl⟩
            exact ⟨⟨_, _, ⟨rfl, rfl, rfl⟩, rfl⟩, by omega, by omega⟩
          · rintro ⟨⟨_, _, ⟨rfl, rfl, all⟩, rfl⟩, -, -⟩
            exact ⟨all, rfl⟩

/-- `StrToULL` accepts the texts that denote a number of 64 bits, with a sign or without. -/
theorem strToULL_eq_iff :
    strToULL str = (true, value) ↔
      ∃ number, Denotes 10 (cStr str) number ∧ -2 ^ 64 < number ∧ number < 2 ^ 64 ∧
        value = number % 2 ^ 64 := by
  simp only [denotes_iff, strToULL]
  by_cases empty : str = ""
  · subst empty
    simp [cStr, scanNumber, readSign, dropHexMark, Numeral.scan]
  · rw [if_neg empty, strtoull]
    cases scanned : scanNumber 10 (cStr str) with
    | none =>
        dsimp only
        rw [checkConversion_of_none]
        simp
    | some found =>
        obtain ⟨negative, magnitude, rest⟩ := found
        have shorter := length_of_scanNumber scanned
        have sizes : (-2 ^ 64 < signed negative magnitude ∧ signed negative magnitude < 2 ^ 64) ↔
            magnitude < 2 ^ 64 := by
          cases negative <;> simp only [signed, Bool.false_eq_true, if_false, if_true] <;> omega
        dsimp only
        split_ifs with large
        · rw [checkConversion_of_erange (by simp)]
          simp only [Prod.mk.injEq, Bool.false_eq_true, false_and, Option.some.injEq, false_iff]
          rintro ⟨_, ⟨_, _, ⟨rfl, rfl, -⟩, rfl⟩, low, high, -⟩
          exact absurd (sizes.mp ⟨low, high⟩) (Nat.not_lt_of_le large)
        · have range := sizes.mpr (Nat.lt_of_not_le large)
          rw [checkConversion_of_read shorter]
          simp only [Prod.mk.injEq, decide_eq_true_eq, Option.some.injEq]
          constructor
          · rintro ⟨rfl, rfl⟩
            exact ⟨_, ⟨_, _, ⟨rfl, rfl, rfl⟩, rfl⟩, range.1, range.2, rfl⟩
          · rintro ⟨_, ⟨_, _, ⟨rfl, rfl, all⟩, rfl⟩, -, -, rfl⟩
            exact ⟨all, rfl⟩

end SecurityGuardUtils

namespace SecurityGuardUtils

variable (str) in
theorem strToI64_eq_strToLL : strToI64 str = strToLL str 10 := by
  cases answer : strToLL str 10 with
  | mk accepted value =>
      rw [strToI64, answer]
      cases accepted with
      | false => rfl
      | true =>
          obtain ⟨-, low, high⟩ := strToLL_eq_iff.mp answer
          have fits : -2 ^ 63 ≤ value ∧ value ≤ 2 ^ 63 - 1 := ⟨low, by omega⟩
          simp only [fits, and_self, decide_true, Bool.and_true]

/-- The base in which `StrToI64Hex` reads a text. -/
def hexBase (str : String) : Nat := if startsWithHexMark str then 16 else 10

variable (str) in
theorem strToI64Hex_eq_strToLL : strToI64Hex str = strToLL str (hexBase str) := by
  have chosen : (if startsWithHexMark str then strToLL str 16 else strToLL str 10) =
      strToLL str (hexBase str) := by
    rw [hexBase]
    split_ifs <;> rfl
  rw [strToI64Hex, chosen]
  cases answer : strToLL str (hexBase str) with
  | mk accepted value =>
      cases accepted with
      | false => rfl
      | true =>
          obtain ⟨-, low, high⟩ := strToLL_eq_iff.mp answer
          have fits : -2 ^ 63 ≤ value ∧ value ≤ 2 ^ 63 - 1 := ⟨low, by omega⟩
          simp only [fits, and_self, decide_true, Bool.and_true]

/-- `StrToU32` accepts the numbers that 64 bits turn into one of 32 bits. -/
theorem strToU32_eq_iff :
    strToU32 str = (true, value) ↔
      ∃ number, Denotes 10 (cStr str) number ∧ -2 ^ 64 < number ∧ number < 2 ^ 64 ∧
        number % 2 ^ 64 < 2 ^ 32 ∧ value = number % 2 ^ 64 := by
  rw [strToU32]
  cases answer : strToULL str with
  | mk accepted tmp =>
      cases accepted with
      | false =>
          simp only [Bool.false_and, Prod.mk.injEq, Bool.false_eq_true, false_and, false_iff]
          rintro ⟨number, denotes, low, high, -, -⟩
          have read := strToULL_eq_iff.mpr ⟨number, denotes, low, high, rfl⟩
          rw [answer] at read
          exact absurd (Prod.mk.inj read).1 Bool.false_ne_true
      | true =>
          obtain ⟨number, denotes, low, high, rfl⟩ := strToULL_eq_iff.mp answer
          simp only [Bool.true_and, Prod.mk.injEq, decide_eq_true_eq]
          constructor
          · rintro ⟨small, rfl⟩
            exact ⟨number, denotes, low, high, by omega, by omega⟩
          · rintro ⟨other, same, -, -, small, rfl⟩
            obtain rfl := denotes.unique same
            exact ⟨by omega, by omega⟩

end SecurityGuardUtils

end Wrappers

/-! ## Exact parsing -/

/-- An answer accepts exactly the texts with a meaning, and returns the meaning. -/
structure ParsesExactly (answer : Bool × Int) (means : Int → Prop) : Prop where
  accepts : answer.1 = true ↔ ∃ value, means value
  value : answer.1 = true → means answer.2

/-- The whole text denotes an integer of a range. -/
def DenotesWithin (base : Nat) (low high : Int) (str : String) (value : Int) : Prop :=
  Denotes base str.toList value ∧ low ≤ value ∧ value ≤ high

/-- A text without a zero character. -/
def NoZero (str : String) : Prop := ∀ char ∈ str.toList, char.toNat ≠ 0

instance (str : String) : Decidable (NoZero str) :=
  inferInstanceAs (Decidable (∀ char ∈ str.toList, char.toNat ≠ 0))

/-- A negative number that 64 bits without sign turn into one of 32 bits. -/
def WrapsAround (value : Int) : Prop := -2 ^ 64 < value ∧ value < -2 ^ 64 + 2 ^ 32

theorem cStr_of_denotesWithin {base : Nat} {low high value : Int} {str : String}
    (means : DenotesWithin base low high str value) : NoZero str ∧ cStr str = str.toList :=
  ⟨means.1.no_zero, cStr_eq_toList means.1.no_zero⟩

namespace SecurityGuardUtils

/-- A conversion with sign is exact unless a number of its range is cut off by a zero
character. -/
theorem strToLL_exact_iff (str : String) (base : Nat) :
    ParsesExactly (strToLL str base) (DenotesWithin base (-2 ^ 63) (2 ^ 63 - 1) str) ↔
      ∀ value, Denotes base (cStr str) value → -2 ^ 63 ≤ value → value ≤ 2 ^ 63 - 1 →
        NoZero str := by
  constructor
  · intro exact value denotes low high
    have read := strToLL_eq_iff.mpr ⟨denotes, low, by omega⟩
    obtain ⟨_, means⟩ := exact.accepts.mp (congrArg Prod.fst read)
    exact (cStr_of_denotesWithin means).1
  · intro whole
    have meaning (accepted : (strToLL str base).1 = true) :
        DenotesWithin base (-2 ^ 63) (2 ^ 63 - 1) str (strToLL str base).2 := by
      obtain ⟨value, read⟩ : ∃ value, strToLL str base = (true, value) :=
        ⟨_, Prod.ext accepted rfl⟩
      obtain ⟨denotes, low, high⟩ := strToLL_eq_iff.mp read
      have same := cStr_eq_toList (whole value denotes low (by omega))
      rw [read]
      exact ⟨same ▸ denotes, low, by omega⟩
    refine ⟨⟨fun accepted => ⟨_, meaning accepted⟩, ?_⟩, meaning⟩
    rintro ⟨value, means⟩
    have same := (cStr_of_denotesWithin means).2
    obtain ⟨denotes, low, high⟩ := means
    exact congrArg Prod.fst (strToLL_eq_iff.mpr ⟨same ▸ denotes, low, by omega⟩)

theorem strToU32_exact_iff (str : String) :
    ParsesExactly (strToU32 str) (DenotesWithin 10 0 (2 ^ 32 - 1) str) ↔
      ∀ value, Denotes 10 (cStr str) value →
        ¬WrapsAround value ∧ (0 ≤ value → value ≤ 2 ^ 32 - 1 → NoZero str) := by
  constructor
  · intro exact value denotes
    refine ⟨fun wraps => ?_, fun low high => ?_⟩
    · obtain ⟨low, high⟩ := wraps
      have read := strToU32_eq_iff.mpr ⟨value, denotes, low, by omega, by omega, rfl⟩
      obtain ⟨other, means⟩ := exact.accepts.mp (congrArg Prod.fst read)
      have same := (cStr_of_denotesWithin means).2
      obtain rfl := denotes.unique (same ▸ means.1)
      have := means.2.1
      omega
    · have read := strToU32_eq_iff.mpr ⟨value, denotes, by omega, by omega, by omega, rfl⟩
      obtain ⟨_, means⟩ := exact.accepts.mp (congrArg Prod.fst read)
      exact (cStr_of_denotesWithin means).1
  · intro whole
    have meaning (accepted : (strToU32 str).1 = true) :
        DenotesWithin 10 0 (2 ^ 32 - 1) str (strToU32 str).2 := by
      obtain ⟨value, read⟩ : ∃ value, strToU32 str = (true, value) := ⟨_, Prod.ext accepted rfl⟩
      obtain ⟨number, denotes, low, high, small, wrapped⟩ := strToU32_eq_iff.mp read
      obtain ⟨plain, noZero⟩ := whole number denotes
      have nonneg : 0 ≤ number := by
        by_contra negative
        exact plain ⟨low, by omega⟩
      have same := cStr_eq_toList (noZero nonneg (by omega))
      have kept : value = number := by omega
      rw [read, kept]
      exact ⟨same ▸ denotes, nonneg, by omega⟩
    refine ⟨⟨fun accepted => ⟨_, meaning accepted⟩, ?_⟩, meaning⟩
    rintro ⟨value, means⟩
    have same := (cStr_of_denotesWithin means).2
    obtain ⟨denotes, low, high⟩ := means
    exact congrArg Prod.fst
      (strToU32_eq_iff.mpr ⟨value, same ▸ denotes, by omega, by omega, by omega, rfl⟩)

/-- Each conversion of an id is exact if no number of its range is cut off by a zero character
and, for `StrToU32`, the text is not a negative number that wraps around. -/
theorem ids_parse_exactly_iff (str : String) :
    (ParsesExactly (strToU32 str) (DenotesWithin 10 0 (2 ^ 32 - 1) str) ↔
      ∀ value, Denotes 10 (cStr str) value →
        ¬WrapsAround value ∧ (0 ≤ value → value ≤ 2 ^ 32 - 1 → NoZero str)) ∧
    (ParsesExactly (strToI64 str) (DenotesWithin 10 (-2 ^ 63) (2 ^ 63 - 1) str) ↔
      ∀ value, Denotes 10 (cStr str) value → -2 ^ 63 ≤ value → value ≤ 2 ^ 63 - 1 →
        NoZero str) ∧
    (ParsesExactly (strToI64Hex str)
        (DenotesWithin (if startsWithHexMark str then 16 else 10) (-2 ^ 63) (2 ^ 63 - 1) str) ↔
      ∀ value, Denotes (if startsWithHexMark str then 16 else 10) (cStr str) value →
        -2 ^ 63 ≤ value → value ≤ 2 ^ 63 - 1 → NoZero str) := by
  refine ⟨strToU32_exact_iff str, ?_, ?_⟩
  · rw [strToI64_eq_strToLL]
    exact strToLL_exact_iff str 10
  · rw [strToI64Hex_eq_strToLL]
    exact strToLL_exact_iff str (hexBase str)

/-- A number far below zero becomes the id 1. -/
theorem negative_id_wraps_around :
    strToU32 "-18446744073709551615" = (true, 1) ∧
      ¬ParsesExactly (strToU32 "-18446744073709551615")
        (DenotesWithin 10 0 (2 ^ 32 - 1) "-18446744073709551615") := by
  have wraps : Denotes 10 (cStr "-18446744073709551615") (-18446744073709551615) :=
    denotes_iff.mpr ⟨true, 18446744073709551615, by decide +kernel, by decide +kernel⟩
  refine ⟨by decide +kernel, fun exact => ?_⟩
  exact ((strToU32_exact_iff _).mp exact _ wraps).1 ⟨by decide, by decide⟩

end SecurityGuardUtils

/-- The conversion in one go accepts what `StrToLL` accepts. -/
theorem strToLL_denotes {base : Nat} {str : String} {value : Int} :
    strToLL str base = some value ↔
      Denotes base (cStr str) value ∧ -2 ^ 63 ≤ value ∧ value < 2 ^ 63 := by
  have unsigned (unspaced : List Char) :
      (if unspaced.head? = some '-' ∨ unspaced.head? = some '+' then unspaced.tail
        else unspaced) = (readSign unspaced).2 := by
    rw [readSign]
    split_ifs <;> simp_all
  have minus (unspaced : List Char) :
      (unspaced.head? = some '-') = ((readSign unspaced).1 = true) := by
    rw [readSign]
    split_ifs <;> simp_all
  have total (values : List Nat) :
      (do let digit ← values; pure (digit : Int)).foldl (fun number digit => number * base + digit)
        0 = (Numeral.value base values : Int) :=
    (congrArg _ (List.map_eq_flatMap ..).symm).trans (Numeral.foldl_cast base values 0)
  rw [denotes_iff, strToLL, ← cStr]
  dsimp only
  simp only [unsigned]
  simp only [minus, total, scanNumber]
  generalize dropHexMark base (readSign ((cStr str).dropWhile isSpace)).2 = digits
  generalize (readSign ((cStr str).dropWhile isSpace)).1 = negative
  by_cases no_digit : digits = []
  · simp [no_digit, Numeral.scan]
  · rw [if_neg no_digit]
    cases all_digits : digits.mapM (digitValue base) with
    | none =>
        have stops : (Numeral.scan (digitValue base) digits).2 ≠ [] := by
          intro ends
          rw [Numeral.scan_eq_iff.mp (Prod.ext rfl ends)] at all_digits
          exact Option.some_ne_none _ all_digits
        simp [stops]
    | some values =>
        have some_value : values ≠ [] := by
          rintro rfl
          exact no_digit (List.eq_nil_of_length_eq_zero (Numeral.mapM_length all_digits).symm)
        rw [Numeral.scan_eq_iff.mpr all_digits, if_neg some_value, Option.bind_some]
        change (if -2 ^ 63 ≤ signed negative (Numeral.value base values) ∧
          signed negative (Numeral.value base values) < 2 ^ 63 then
            some (signed negative (Numeral.value base values)) else none) = some value ↔ _
        simp only [Option.ite_none_right_eq_some, Option.some.injEq, Prod.mk.injEq, and_true]
        constructor
        · rintro ⟨range, rfl⟩
          exact ⟨⟨_, _, ⟨rfl, rfl⟩, rfl⟩, range⟩
        · rintro ⟨⟨_, _, ⟨rfl, rfl⟩, rfl⟩, range⟩
          exact ⟨range, rfl⟩

/-- The reader's `StrToLL` is that of `SecurityGuardUtils`. -/
theorem strToLL_eq_some_iff {base : Nat} {str : String} {value : Int} :
    strToLL str base = some value ↔ SecurityGuardUtils.strToLL str base = (true, value) :=
  strToLL_denotes.trans SecurityGuardUtils.strToLL_eq_iff.symm

theorem strToI64Hex_eq_some_iff {str : String} {value : Int} :
    strToI64Hex str = some value ↔ SecurityGuardUtils.strToI64Hex str = (true, value) := by
  have chosen : strToI64Hex str = strToLL str (SecurityGuardUtils.hexBase str) := by
    simp only [strToI64Hex, SecurityGuardUtils.hexBase, SecurityGuardUtils.startsWithHexMark,
      decide_eq_true_eq]
    split_ifs <;> rfl
  rw [SecurityGuardUtils.strToI64Hex_eq_strToLL, ← strToLL_eq_some_iff, chosen]

theorem digitValue_of_isDigit {char : Char} (digit : char.isDigit = true) :
    digitValue 10 char = some (char.toNat - 48) := by
  have range : 48 ≤ char.toNat ∧ char.toNat ≤ 57 := Char.isDigit_iff_toNat.mp digit
  have shown : '0' ≤ char ∧ char ≤ '9' := range
  rw [digitValue, if_pos shown]
  exact if_pos (by omega)

theorem mapM_digitValue {digits : List Char} (all : ∀ char ∈ digits, char.isDigit = true) :
    ∃ values, digits.mapM (digitValue 10) = some values ∧ ∀ start : Nat,
      values.foldl (fun number digit => number * 10 + digit) start =
        Nat.ofDigitChars 10 digits start := by
  induction digits with
  | nil => exact ⟨[], rfl, fun start => (Nat.ofDigitChars_nil).symm⟩
  | cons char digits ih =>
      obtain ⟨first, rest⟩ := List.forall_mem_cons.mp all
      obtain ⟨values, mapped, folded⟩ := ih rest
      refine ⟨(char.toNat - 48) :: values, ?_, fun start => ?_⟩
      · simp [List.mapM_cons, digitValue_of_isDigit first, mapped]
      · rw [List.foldl_cons, folded, Nat.ofDigitChars_cons, Nat.mul_comm 10 start]
        rfl

theorem denotes_repr (sign : List Char) (signs : sign = [] ∨ sign = ['-']) (number : Nat) :
    Denotes 10 (sign ++ number.repr.toList) (signed (sign = ['-']) number) := by
  have digits : ∀ char ∈ Nat.toDigits 10 number, char.isDigit = true :=
    fun char mem => Nat.isDigit_of_mem_toDigits (by decide) (by decide) mem
  obtain ⟨values, mapped, folded⟩ := mapM_digitValue digits
  have value : Numeral.value 10 values = number := by
    rw [Numeral.value, folded, Nat.ofDigitChars_ten_toDigits]
  have read := IsNumber.intro [] sign [] (Nat.toDigits 10 number) values
    (fun _ mem => absurd mem List.not_mem_nil) (signs.imp_right .inr) (.inl rfl)
    Nat.toDigits_ne_nil mapped
  rw [value] at read
  rw [Nat.toList_repr]
  exact ⟨_, _, read, rfl⟩

theorem denotes_toString (number : Int) : Denotes 10 (toString number).toList number := by
  cases number with
  | ofNat number => exact denotes_repr [] (.inl rfl) number
  | negSucc number =>
      have read := denotes_repr ['-'] (.inr rfl) number.succ
      change Denotes 10 ("-" ++ number.succ.repr).toList (Int.negSucc number)
      rw [String.toList_append]
      exact read

theorem cStr_toString (number : Int) : cStr (toString number) = (toString number).toList :=
  cStr_eq_toList (denotes_toString number).no_zero

theorem strToLL_toString {number : Int} (low : -2 ^ 63 ≤ number) (high : number < 2 ^ 63) :
    strToLL (toString number) 10 = some number :=
  strToLL_denotes.mpr ⟨(cStr_toString number).symm ▸ denotes_toString number, low, high⟩

theorem strToI64Hex_toString {number : Int} (low : -2 ^ 63 ≤ number) (high : number < 2 ^ 63) :
    strToI64Hex (toString number) = some number := by
  have unmarked : (toString number).toList.take 2 ≠ ['0', 'x'] := by
    intro marked
    have inside : 'x' ∈ (toString number).toList :=
      List.mem_of_mem_take (marked ▸ by simp : 'x' ∈ (toString number).toList.take 2)
    exact Text.not_mem_toString (by decide) number inside
  rw [strToI64Hex, if_neg unmarked, strToLL_toString low high]

end SecurityGuard
