import SecurityGuard.Service.Query

/-!
# Chunks of events

`QuerySecurityEventCallBack` walks over a long list with iterators and shortens its own step on
the way.  Every iterator that it computes stays within the list, and the chunks between them are
the pieces of `queryPieces`.
-/

namespace SecurityGuard

/-- The variables of the loop; an iterator is its distance from the beginning of the list. -/
structure QueryLoop where
  curPtr : Int := 0
  step : Int := maxOnQuerySize
  /-- The chunks that have been sent. -/
  onQuery : List (List SecurityEvent) := []
  /-- The iterators that have been computed. -/
  iterators : List Int := []
  deriving DecidableEq

namespace QueryLoop

/-- The events between two iterators. -/
def slice (events : List SecurityEvent) (first last : Int) : List SecurityEvent :=
  (events.drop first.toNat).take (last - first).toNat

/-- One turn of the loop, unless it is over; the step is a number of 32 bits. -/
def next (events : List SecurityEvent) (loop : QueryLoop) : Option QueryLoop :=
  let endPtr : Int := events.length
  if loop.curPtr < endPtr then
    let stop := if endPtr - loop.curPtr > loop.step then loop.step + loop.curPtr else endPtr
    -- The length of the rest is narrowed to the type of the step.
    let step := (if endPtr - loop.curPtr > loop.step then loop.step
      else endPtr - loop.curPtr).bmod (2 ^ 32)
    some
      { curPtr := loop.curPtr + step
        step := step
        onQuery := loop.onQuery ++ [slice events loop.curPtr stop]
        iterators := loop.iterators ++ [stop, loop.curPtr + step] }
  else none

/-- The end of the loop, if it is over after fewer turns than `fuel`. -/
def run (events : List SecurityEvent) : Nat → QueryLoop → Option QueryLoop
  | 0, _ => none
  | fuel + 1, loop =>
      match loop.next events with
      | none => some loop
      | some after => run events fuel after

/-- The branches of `QuerySecurityEventCallBack`, with its loop. -/
def querySecurityEventCallBack (fuel : Nat) (events : List SecurityEvent) : Option QueryLoop :=
  if 0 < events.length ∧ events.length ≤ maxOnQuerySize then some { onQuery := [events] }
  else if maxOnQuerySize < events.length then
    run events fuel { iterators := [0, events.length] }
  else some {}

variable {events : List SecurityEvent} {loop final : QueryLoop}

/-- What the loop keeps: the chunks are the events before the iterator, none is empty or too
long, and no iterator has left the list. -/
structure Chunked (events : List SecurityEvent) (loop : QueryLoop) : Prop where
  within : 0 ≤ loop.curPtr ∧ loop.curPtr ≤ events.length
  positive : 0 < loop.step
  bounded : loop.step ≤ maxOnQuerySize
  sent : loop.onQuery.flatten = events.take loop.curPtr.toNat
  sizes : ∀ chunk ∈ loop.onQuery, chunk ≠ [] ∧ chunk.length ≤ maxOnQuerySize
  inside : ∀ iterator ∈ loop.iterators, 0 ≤ iterator ∧ iterator ≤ events.length

theorem next_eq_none (done : loop.curPtr = events.length) : loop.next events = none := by
  rw [next, if_neg (by omega)]

/-- A turn advances by the step, or by what is left when that is less. -/
theorem next_eq_some (chunked : Chunked events loop) (before : loop.curPtr < events.length) :
    let size := min loop.step (events.length - loop.curPtr)
    loop.next events = some
      { curPtr := loop.curPtr + size
        step := size
        onQuery := loop.onQuery ++ [(events.drop loop.curPtr.toNat).take size.toNat]
        iterators := loop.iterators ++ [loop.curPtr + size, loop.curPtr + size] } := by
  have positive := chunked.positive
  have bounded : loop.step ≤ 100 := chunked.bounded
  have small (step : Int) (low : 0 < step) (high : step ≤ 100) : step.bmod (2 ^ 32) = step :=
    Int.bmod_eq_of_le (by omega) (by omega)
  dsimp only
  rw [next, if_pos before]
  by_cases long : (events.length : Int) - loop.curPtr > loop.step
  · have width : loop.curPtr + loop.step - loop.curPtr = loop.step := by omega
    simp only [if_pos long, small _ positive bounded, min_eq_left (Int.le_of_lt long), slice,
      width, Int.add_comm loop.step loop.curPtr]
  · have short : (events.length : Int) - loop.curPtr ≤ loop.step := Int.not_lt.mp long
    have stop : loop.curPtr + (events.length - loop.curPtr) = events.length := by omega
    simp only [if_neg long, small _ (Int.sub_pos_of_lt before) (by omega), min_eq_right short,
      slice, stop]

/-- A turn keeps the invariant. -/
theorem Chunked.next (chunked : Chunked events loop) {after : QueryLoop}
    (turned : loop.next events = some after) :
    Chunked events after ∧ loop.curPtr < after.curPtr := by
  obtain ⟨⟨low, high⟩, positive, bounded, sent, sizes, inside⟩ := chunked
  have before : loop.curPtr < events.length := by
    by_contra done
    rw [next_eq_none (by omega)] at turned
    contradiction
  rw [next_eq_some ⟨⟨low, high⟩, positive, bounded, sent, sizes, inside⟩ before,
    Option.some.injEq] at turned
  subst turned
  generalize amount : min loop.step (events.length - loop.curPtr) = size
  have advances : 0 < size := by omega
  have fits : size ≤ maxOnQuerySize := by omega
  have stays : loop.curPtr + size ≤ events.length := by omega
  refine ⟨⟨⟨by dsimp only; omega, stays⟩, advances, fits, ?_, fun chunk mem => ?_,
    fun iterator mem => ?_⟩, by dsimp only; omega⟩
  · dsimp only
    rw [List.flatten_append, sent, List.flatten_singleton, ← List.take_add,
      Int.toNat_add low (Int.le_of_lt advances)]
  · rcases List.mem_append.mp mem with earlier | new
    · exact sizes chunk earlier
    · obtain rfl := List.mem_singleton.mp new
      have length : ((events.drop loop.curPtr.toNat).take size.toNat).length = size.toNat := by
        rw [List.length_take, List.length_drop]
        omega
      exact ⟨List.ne_nil_of_length_pos (by omega), by omega⟩
  · rcases List.mem_append.mp mem with earlier | new
    · exact inside iterator earlier
    · obtain rfl : iterator = loop.curPtr + size := by simpa using new
      exact ⟨by omega, stays⟩

theorem queryPieces_eq_cons {step size : Nat} (positive : 0 < step) (some_left : events ≠ [])
    (shortened : size = min step events.length) :
    queryPieces step positive events =
      events.take size :: queryPieces size
        (by have := List.length_pos_of_ne_nil some_left; omega) (events.drop size) := by
  have length : (if step < events.length then step else events.length) = size := by
    split_ifs <;> omega
  rw [queryPieces, dif_neg some_left]
  simp only [length]

/-- From a state that meets the invariant the loop ends at the end of the list, having sent the
rest in pieces. -/
theorem Chunked.run_eq_some (chunked : Chunked events loop) {step : Nat} (positive : 0 < step)
    (same : loop.step = step) {fuel : Nat}
    (enough : (events.length - loop.curPtr).toNat < fuel) :
    ∃ final, run events fuel loop = some final ∧ Chunked events final ∧
      final.curPtr = events.length ∧
      final.onQuery = loop.onQuery ++ queryPieces step positive
        (events.drop loop.curPtr.toNat) := by
  induction fuel generalizing loop step with
  | zero => exact absurd enough (Nat.not_lt_zero _)
  | succ fuel ih =>
      obtain ⟨low, high⟩ := chunked.within
      rcases Int.lt_or_eq_of_le high with before | done
      · have turned := next_eq_some chunked before
        generalize amount : min loop.step (events.length - loop.curPtr) = size at turned
        obtain ⟨kept, -⟩ := chunked.next turned
        have size_pos : 0 < size.toNat := by omega
        obtain ⟨final, ends, done, last, pieces⟩ := ih kept size_pos
          (by dsimp only; omega) (by dsimp only; omega)
        refine ⟨final, by rw [run, turned]; exact ends, done, last, ?_⟩
        have some_left : events.drop loop.curPtr.toNat ≠ [] := by
          rw [Ne, List.drop_eq_nil_iff]
          omega
        have shortened : size.toNat = min step (events.drop loop.curPtr.toNat).length := by
          rw [List.length_drop]
          omega
        have position : (loop.curPtr + size).toNat = loop.curPtr.toNat + size.toNat :=
          Int.toNat_add low (by omega)
        rw [pieces, queryPieces_eq_cons positive some_left shortened]
        simp only [position, List.drop_drop, List.append_assoc, List.singleton_append]
      · refine ⟨loop, by rw [run, next_eq_none done], chunked, done, ?_⟩
        have none_left : events.drop loop.curPtr.toNat = [] := by
          rw [List.drop_eq_nil_iff]
          omega
        rw [none_left, queryPieces, dif_pos rfl, List.append_nil]

theorem run_mono {fuel more : Nat} (ends : run events fuel loop = some final)
    (le : fuel ≤ more) : run events more loop = some final := by
  induction fuel generalizing loop more with
  | zero => simp [run] at ends
  | succ fuel ih =>
      obtain ⟨more, rfl⟩ : ∃ rest, more = rest + 1 := ⟨more - 1, by omega⟩
      rw [run] at ends ⊢
      cases turned : loop.next events with
      | none => rwa [turned] at ends
      | some after =>
          rw [turned] at ends
          exact ih ends (Nat.le_of_succ_le_succ le)

/-- The loop over a long list ends and has sent its pieces. -/
theorem run_start (long : maxOnQuerySize < events.length) :
    ∃ final, (∀ fuel, events.length < fuel →
        run events fuel { iterators := [0, events.length] } = some final) ∧
      Chunked events final ∧ final.curPtr = events.length ∧
      final.onQuery = queryPieces maxOnQuerySize (by decide) events := by
  have start : Chunked events { iterators := [0, events.length] } := by
    refine ⟨⟨Int.le_refl 0, by dsimp only; omega⟩, Int.natCast_pos.mpr (by decide),
      Int.le_refl _, rfl, by simp, ?_⟩
    intro iterator mem
    obtain rfl | rfl : iterator = 0 ∨ iterator = events.length := by simpa using mem
    · exact ⟨Int.le_refl 0, by omega⟩
    · exact ⟨by omega, Int.le_refl _⟩
  obtain ⟨final, ends, chunked, last, pieces⟩ :=
    start.run_eq_some (by decide) rfl (Nat.lt_succ_self _)
  exact ⟨final, fun fuel enough => run_mono ends (by dsimp only; omega), chunked, last, pieces⟩

end QueryLoop

namespace QueryState

variable {σ : Type}

/-- A callback with any list of events ends, sends the list in chunks and never moves an iterator
out of the list. -/
theorem querySecurityEventCallBack_sends_chunks (state : QueryState σ)
    (events : List SecurityEvent) :
    ∃ final : QueryLoop,
      (∀ fuel, events.length < fuel →
        QueryLoop.querySecurityEventCallBack fuel events = some final) ∧
      state.querySecurityEventCallBack events = state.onQueries final.onQuery ∧
      final.onQuery.flatten = events ∧
      (∀ chunk ∈ final.onQuery, chunk ≠ [] ∧ chunk.length ≤ maxOnQuerySize) ∧
      (events = [] → final.onQuery = []) ∧
      ∀ iterator ∈ final.iterators, 0 ≤ iterator ∧ iterator ≤ events.length := by
  simp only [querySecurityEventCallBack, QueryLoop.querySecurityEventCallBack]
  by_cases one : 0 < events.length ∧ events.length ≤ maxOnQuerySize
  · refine ⟨{ onQuery := [events] }, fun _ _ => if_pos one, if_pos one, by simp, ?_, ?_, by simp⟩
    · intro chunk mem
      obtain rfl := List.mem_singleton.mp mem
      exact ⟨List.ne_nil_of_length_pos one.1, one.2⟩
    · rintro rfl
      exact absurd one.1 (Nat.lt_irrefl 0)
  · simp only [if_neg one]
    by_cases long : maxOnQuerySize < events.length
    · obtain ⟨final, ends, chunked, last, pieces⟩ := QueryLoop.run_start long
      simp only [if_pos long]
      refine ⟨final, ends, by rw [pieces], ?_, chunked.sizes, ?_, chunked.inside⟩
      · rw [chunked.sent, last, Int.toNat_natCast, List.take_length]
      · rintro rfl
        exact absurd long (Nat.not_lt_zero _)
    · have none : events = [] := List.eq_nil_of_length_eq_zero (by omega)
      simp only [if_neg long]
      refine ⟨{}, fun _ _ => rfl, ?_, ?_, by simp, fun _ => rfl, by simp⟩
      · simp [onQueries]
      · simp [none]

end QueryState

end SecurityGuard
