import Mathlib.Data.List.Basic

/-!
# Copying a stream chunk by chunk

A relay reads a chunk of a stream and writes a front of it, and goes on with the next chunk.  A
front that is too short is lost silently unless the relay looks at its length.  What has been
written is the whole stream only if no write was short and nothing was left unread.
-/

namespace Relay

variable {α : Type*} {size : Nat}

/-- One read, of at most `size` items, with the write of what it has read. -/
structure Round (α : Type*) (size : Nat) where
  chunk : List α
  /-- The number of items written, unless the write has failed. -/
  written : Option Nat
  nonempty : chunk ≠ []
  fits : chunk.length ≤ size
  front : ∀ count, written = some count → count ≤ chunk.length

/-- How the reads end. -/
inductive Ending (α : Type*) where
  | endOfStream
  | readError (unread : List α)

/-- What was not read. -/
def Ending.rest : Ending α → List α
  | .endOfStream => []
  | .readError unread => unread

/-- What a round adds to the copy. -/
def Round.output (round : Round α size) : List α := round.chunk.take (round.written.getD 0)

/-- What some rounds have put out. -/
def copied (rounds : List (Round α size)) : List α := rounds.flatMap Round.output

/-- The stream that the rounds read from. -/
def stream (rounds : List (Round α size)) (rest : List α) : List α :=
  rounds.flatMap Round.chunk ++ rest

theorem Round.output_length_le (round : Round α size) :
    round.output.length ≤ round.chunk.length := by
  rw [output, List.length_take]
  omega

/-- A round adds its whole chunk exactly if the write is neither short nor fails. -/
theorem Round.output_length_iff (round : Round α size) :
    round.output.length = round.chunk.length ↔ round.written = some round.chunk.length := by
  have positive := List.length_pos_iff.mpr round.nonempty
  rw [output, List.length_take]
  cases written : round.written with
  | none =>
      rw [Option.getD_none]
      simp
      omega
  | some count =>
      have front := round.front count written
      rw [Option.getD_some, Option.some.injEq]
      omega

theorem Round.output_of_full {round : Round α size}
    (full : round.written = some round.chunk.length) : round.output = round.chunk := by
  rw [output, full, Option.getD_some, List.take_length]

theorem length_copied_le (rounds : List (Round α size)) :
    (copied rounds).length ≤ (rounds.flatMap Round.chunk).length := by
  induction rounds with
  | nil => exact Nat.le_refl 0
  | cons round rounds ih =>
      have first := round.output_length_le
      rw [copied, List.flatMap_cons, List.flatMap_cons, List.length_append, List.length_append]
      rw [copied] at ih
      omega

theorem copied_of_full {rounds : List (Round α size)}
    (full : ∀ round ∈ rounds, round.written = some round.chunk.length) :
    copied rounds = rounds.flatMap Round.chunk := by
  induction rounds with
  | nil => rfl
  | cons round rounds ih =>
      have first := Round.output_of_full (full round List.mem_cons_self)
      have rest := ih fun other mem => full other (List.mem_cons_of_mem _ mem)
      rw [copied] at rest ⊢
      rw [List.flatMap_cons, List.flatMap_cons, first, rest]

/-- As many items are copied as were read exactly if no write is short. -/
theorem length_copied_iff (rounds : List (Round α size)) :
    (copied rounds).length = (rounds.flatMap Round.chunk).length ↔
      ∀ round ∈ rounds, round.written = some round.chunk.length := by
  constructor
  · induction rounds with
    | nil => exact fun _ _ mem => absurd mem (by simp)
    | cons round rounds ih =>
        intro same
        have first := round.output_length_le
        have others := length_copied_le rounds
        rw [copied] at same ih others
        rw [List.flatMap_cons, List.flatMap_cons, List.length_append, List.length_append] at same
        have whole : round.output.length = round.chunk.length := by omega
        have rest := ih (by omega)
        intro other mem
        rcases List.mem_cons.mp mem with rfl | mem
        · exact other.output_length_iff.mp whole
        · exact rest other mem
  · exact fun full => congrArg List.length (copied_of_full full)

/-- The copy is the stream exactly if no write is short and nothing is left unread. -/
theorem copied_eq_stream_iff (rounds : List (Round α size)) (rest : List α) :
    copied rounds = stream rounds rest ↔
      (∀ round ∈ rounds, round.written = some round.chunk.length) ∧ rest = [] := by
  constructor
  · intro whole
    have lengths := congrArg List.length whole
    rw [stream, List.length_append] at lengths
    have bound := length_copied_le rounds
    refine ⟨(length_copied_iff rounds).mp (by omega), List.length_eq_zero_iff.mp (by omega)⟩
  · rintro ⟨full, rfl⟩
    rw [copied_of_full full, stream, List.append_nil]

end Relay
