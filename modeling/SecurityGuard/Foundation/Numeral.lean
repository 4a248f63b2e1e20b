import Mathlib.Data.List.Basic
import Mathlib.Data.Nat.Cast.Basic

/-!
# Positional numerals

The digits at the front of a list of symbols, and the number that they denote in a base.  Which
symbols are digits is a parameter.
-/

namespace Numeral

variable {α : Type*} (digit : α → Option Nat)

/-- The values of the digits at the front, and what follows them. -/
def scan : List α → List Nat × List α
  | [] => ([], [])
  | symbol :: rest =>
      match digit symbol with
      | none => ([], symbol :: rest)
      | some value =>
          let later := scan rest
          (value :: later.1, later.2)

/-- The number that digits denote, the first digit being the highest. -/
def value (base : Nat) (values : List Nat) : Nat :=
  values.foldl (fun number digit => number * base + digit) 0

variable {digit} {text : List α} {values : List Nat}

/-- The digits run to the end exactly when every symbol is one. -/
theorem scan_eq_iff : scan digit text = (values, []) ↔ text.mapM digit = some values := by
  induction text generalizing values with
  | nil => simp [scan, eq_comm]
  | cons symbol rest ih =>
      rw [scan, List.mapM_cons]
      cases found : digit symbol with
      | none => simp
      | some first =>
          constructor
          · intro scanned
            obtain ⟨head, tail⟩ := Prod.mk.inj scanned
            have later := ih.mp (Prod.ext rfl tail)
            simp [later, head]
          · intro mapped
            obtain ⟨later, rest_mapped, rfl⟩ : ∃ later, rest.mapM digit = some later ∧
                first :: later = values := by
              simpa [Option.bind_eq_some_iff] using mapped
            simp [ih.mpr rest_mapped]

theorem length_scan : (scan digit text).1.length + (scan digit text).2.length = text.length := by
  induction text with
  | nil => rfl
  | cons symbol rest ih =>
      rw [scan]
      cases digit symbol with
      | none => simp
      | some first =>
          dsimp only
          rw [List.length_cons, List.length_cons]
          omega

theorem mapM_length (mapped : text.mapM digit = some values) : values.length = text.length := by
  have lengths := @length_scan _ digit text
  rw [scan_eq_iff.mpr mapped] at lengths
  simpa using lengths

theorem isSome_of_mapM (mapped : text.mapM digit = some values) {symbol : α}
    (mem : symbol ∈ text) : (digit symbol).isSome = true := by
  induction text generalizing values with
  | nil => exact absurd mem List.not_mem_nil
  | cons head rest ih =>
      obtain ⟨first, found, later, rest_mapped, -⟩ : ∃ first, digit head = some first ∧
          ∃ later, rest.mapM digit = some later ∧ first :: later = values := by
        simpa [Option.bind_eq_some_iff] using mapped
      rcases List.mem_cons.mp mem with rfl | inside
      · rw [found, Option.isSome_some]
      · exact ih rest_mapped inside

theorem foldl_cast (base : Nat) (values : List Nat) (start : Nat) :
    (values.map fun digit : Nat => (digit : Int)).foldl
        (fun (number digit : Int) => number * base + digit) (start : Int) =
      ((values.foldl (fun number digit => number * base + digit) start : Nat) : Int) := by
  induction values generalizing start with
  | nil => rfl
  | cons digit values ih =>
      rw [List.map_cons, List.foldl_cons, List.foldl_cons, ← ih]
      push_cast
      rfl

end Numeral
