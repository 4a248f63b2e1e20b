import Mathlib.Data.List.Basic
import Mathlib.Data.List.Induction

/-!
# Runs of a labelled transition function

A transition function names the state after one labelled step, or refuses the label.  A run
follows a list of labels, so an interleaving is a list and a concrete run evaluates.  The two
rules of this file carry what one step preserves to whole runs: `run_invariant` under a
condition on every step, and `visits_iff_along` when that condition is also necessary.
-/

/-- The state after one labelled step, when the step is enabled. -/
abbrev Transition (State Label : Type*) := State → Label → Option State

namespace Transition

variable {State Label : Type*}

/-- Follow a list of labels. -/
def run (next : Transition State Label) : State → List Label → Option State
  | state, [] => some state
  | state, label :: labels => (next state label).bind fun after => run next after labels

/-- Every step of a run meets a condition on the state before it and its label. -/
def Along (next : Transition State Label) (guard : State → Label → Prop) :
    State → List Label → Prop
  | _, [] => True
  | state, label :: labels =>
      guard state label ∧ ∀ after, next state label = some after → Along next guard after labels

/-- Every state a run passes through, its first and last states included, has a property. -/
def Visits (next : Transition State Label) (good : State → Prop) : State → List Label → Prop
  | state, [] => good state
  | state, label :: labels =>
      good state ∧ ∀ after, next state label = some after → Visits next good after labels

/-- Whether a concrete run meets a decidable condition can be evaluated. -/
instance decidableAlong (next : Transition State Label) (guard : State → Label → Prop)
    [∀ state label, Decidable (guard state label)] :
    ∀ state labels, Decidable (Along next guard state labels)
  | _, [] => isTrue trivial
  | state, label :: labels =>
      have (after : State) : Decidable (Along next guard after labels) :=
        decidableAlong next guard after labels
      inferInstanceAs
        (Decidable (guard state label ∧
          ∀ after ∈ next state label, Along next guard after labels))

variable {next : Transition State Label}

@[simp]
theorem run_nil (state : State) : run next state [] = some state := rfl

theorem run_cons_eq_some {state final : State} {label : Label} {labels : List Label} :
    run next state (label :: labels) = some final ↔
      ∃ after, next state label = some after ∧ run next after labels = some final :=
  Option.bind_eq_some_iff

theorem run_append (state : State) (front back : List Label) :
    run next state (front ++ back) =
      (run next state front).bind fun middle => run next middle back := by
  induction front generalizing state with
  | nil => rfl
  | cons label front ih =>
      cases taken : next state label with
      | none => simp [run, taken]
      | some after => simpa [run, taken] using ih after

theorem run_eq_getD {state default : State} {labels : List Label}
    (completes : (run next state labels).isSome = true) :
    run next state labels = some ((run next state labels).getD default) := by
  obtain ⟨final, reach⟩ := Option.isSome_iff_exists.mp completes
  rw [reach, Option.getD_some]

theorem along_append {guard : State → Label → Prop} {state middle : State}
    {front back : List Label} (reach : run next state front = some middle) :
    Along next guard state (front ++ back) ↔
      Along next guard state front ∧ Along next guard middle back := by
  induction front generalizing state with
  | nil =>
      obtain rfl : state = middle := Option.some.inj reach
      simp [Along]
  | cons label front ih =>
      obtain ⟨after, taken, rest⟩ := run_cons_eq_some.mp reach
      simp only [List.cons_append, Along, taken, Option.some.injEq, forall_eq', ih rest, and_assoc]

theorem Along.and_mem {guard : State → Label → Prop} {allowed : Label → Prop} {state : State}
    {labels : List Label} (permitted : Along next guard state labels)
    (within : ∀ label ∈ labels, allowed label) :
    Along next (fun state label => guard state label ∧ allowed label) state labels := by
  induction labels generalizing state with
  | nil => exact trivial
  | cons label labels ih =>
      refine ⟨⟨permitted.1, within label List.mem_cons_self⟩, fun after taken => ?_⟩
      exact ih (permitted.2 after taken) fun other mem =>
        within other (List.mem_cons_of_mem label mem)

theorem along_of_mem {allowed : Label → Prop} {labels : List Label}
    (within : ∀ label ∈ labels, allowed label) (state : State) :
    Along next (fun _ label => allowed label) state labels := by
  induction labels generalizing state with
  | nil => exact trivial
  | cons label labels ih =>
      refine ⟨within label List.mem_cons_self, fun after _ => ?_⟩
      exact ih (fun other mem => within other (List.mem_cons_of_mem label mem)) after

/-- A property of the states of a run is a condition on its steps. -/
theorem Visits.along {good : State → Prop} {state : State} {labels : List Label}
    (visits : Visits next good state labels) :
    Along next (fun state _ => good state) state labels := by
  induction labels generalizing state with
  | nil => exact trivial
  | cons label labels ih => exact ⟨visits.1, fun after taken => ih (visits.2 after taken)⟩

/-- The last state of a run is one of its states. -/
theorem Visits.last {good : State → Prop} {state final : State} {labels : List Label}
    (visits : Visits next good state labels) (reach : run next state labels = some final) :
    good final := by
  induction labels generalizing state with
  | nil =>
      obtain rfl : state = final := Option.some.inj reach
      exact visits
  | cons label labels ih =>
      obtain ⟨after, taken, rest⟩ := run_cons_eq_some.mp reach
      exact ih (visits.2 after taken) rest

/-- A property that every permitted step preserves holds after every permitted run. -/
theorem run_invariant {guard : State → Label → Prop} {invariant : State → Prop}
    (step : ∀ {before after : State} {label : Label},
      invariant before → guard before label → next before label = some after → invariant after)
    {state final : State} {labels : List Label} (start : invariant state)
    (permitted : Along next guard state labels) (reach : run next state labels = some final) :
    invariant final := by
  induction labels generalizing state with
  | nil =>
      obtain rfl : state = final := Option.some.inj reach
      exact start
  | cons label labels ih =>
      obtain ⟨after, taken, rest⟩ := run_cons_eq_some.mp reach
      exact ih (step start permitted.1 taken) (permitted.2 after taken) rest

/-- A property that every step preserves holds after every run. -/
theorem run_stable {invariant : State → Prop}
    (step : ∀ {before after : State} {label : Label},
      invariant before → next before label = some after → invariant after)
    {state final : State} {labels : List Label} (start : invariant state)
    (reach : run next state labels = some final) : invariant final := by
  induction labels generalizing state with
  | nil =>
      obtain rfl : state = final := Option.some.inj reach
      exact start
  | cons label labels ih =>
      obtain ⟨after, taken, rest⟩ := run_cons_eq_some.mp reach
      exact ih (step start taken) rest

/-- When every permitted step does what an abstract one does, so does every permitted run. -/
theorem run_simulates {guard : State → Label → Prop} {Abstract : Type*}
    {relates : State → Abstract → Prop} (abstract : Abstract → Label → Abstract)
    (step : ∀ {before after : State} {label : Label} {image : Abstract},
      relates before image → guard before label → next before label = some after →
        relates after (abstract image label))
    {state final : State} {labels : List Label} {image : Abstract} (start : relates state image)
    (permitted : Along next guard state labels) (reach : run next state labels = some final) :
    relates final (labels.foldl abstract image) := by
  induction labels generalizing state image with
  | nil =>
      obtain rfl : state = final := Option.some.inj reach
      exact start
  | cons label labels ih =>
      obtain ⟨after, taken, rest⟩ := run_cons_eq_some.mp reach
      exact ih (step start permitted.1 taken) (permitted.2 after taken) rest

/-- When every permitted step keeps within a budget, and the steps of a kind take from it, a run
has no more steps of the kind than the budget. -/
theorem run_budget {guard : State → Label → Prop} {invariant : State → Prop}
    {counts : Label → Bool} {budget : State → Nat}
    (step : ∀ {before after : State} {label : Label},
      invariant before → guard before label → next before label = some after →
        invariant after ∧ budget after + (if counts label then 1 else 0) ≤ budget before)
    {state final : State} {labels : List Label} (start : invariant state)
    (permitted : Along next guard state labels) (reach : run next state labels = some final) :
    budget final + labels.countP counts ≤ budget state := by
  induction labels generalizing state with
  | nil =>
      obtain rfl : state = final := Option.some.inj reach
      simp
  | cons label labels ih =>
      obtain ⟨after, taken, rest⟩ := run_cons_eq_some.mp reach
      obtain ⟨sound, paid⟩ := step start permitted.1 taken
      have later := ih sound (permitted.2 after taken) rest
      rw [List.countP_cons]
      omega

/-- What an invariant of every step implies holds throughout every run. -/
theorem visits_of_stable {invariant good : State → Prop}
    (step : ∀ {before after : State} {label : Label},
      invariant before → next before label = some after → invariant after)
    (sound : ∀ state, invariant state → good state)
    {state : State} {labels : List Label} (start : invariant state) :
    Visits next good state labels := by
  induction labels generalizing state with
  | nil => exact sound state start
  | cons label labels ih => exact ⟨sound state start, fun after taken => ih (step start taken)⟩

theorem Along.of_invariant {guard implied : State → Label → Prop} {invariant : State → Prop}
    (step : ∀ {before after : State} {label : Label},
      invariant before → guard before label → next before label = some after → invariant after)
    (implies : ∀ {state : State} {label : Label},
      invariant state → guard state label → implied state label)
    {state : State} {labels : List Label} (start : invariant state)
    (permitted : Along next guard state labels) : Along next implied state labels := by
  induction labels generalizing state with
  | nil => exact trivial
  | cons label labels ih =>
      refine ⟨implies start permitted.1, fun after taken => ?_⟩
      exact ih (step start permitted.1 taken) (permitted.2 after taken)

/-- When a step keeps a property exactly under its condition, which a refused label meets, a run
keeps the property throughout exactly when every step meets the condition. -/
theorem visits_iff_along_of_refused {guard : State → Label → Prop}
    {invariant good : State → Prop}
    (refused : ∀ {state : State} {label : Label}, next state label = none → guard state label)
    (step : ∀ {before after : State} {label : Label},
      invariant before → guard before label → next before label = some after → invariant after)
    (exact_step : ∀ {before after : State} {label : Label},
      invariant before → next before label = some after → (good after ↔ guard before label))
    (sound : ∀ state, invariant state → good state)
    {state : State} {labels : List Label} (start : invariant state) :
    Visits next good state labels ↔ Along next guard state labels := by
  induction labels generalizing state with
  | nil => simp [Visits, Along, sound state start]
  | cons label labels ih =>
      cases taken : next state label with
      | none => simp [Visits, Along, taken, sound state start, refused taken]
      | some after =>
          simp only [Visits, Along, taken, Option.some.injEq, forall_eq', sound state start,
            true_and]
          constructor
          · intro visits
            have head : good after := by
              cases labels with
              | nil => exact visits
              | cons _ _ => exact visits.1
            have permitted := (exact_step start taken).mp head
            exact ⟨permitted, (ih (step start permitted taken)).mp visits⟩
          · rintro ⟨permitted, rest⟩
            exact (ih (step start permitted taken)).mpr rest

theorem visits_iff_along {guard : State → Label → Prop} {invariant good : State → Prop}
    (total : ∀ state label, ∃ after, next state label = some after)
    (step : ∀ {before after : State} {label : Label},
      invariant before → guard before label → next before label = some after → invariant after)
    (exact_step : ∀ {before after : State} {label : Label},
      invariant before → next before label = some after → (good after ↔ guard before label))
    (sound : ∀ state, invariant state → good state)
    {state : State} {labels : List Label} (start : invariant state) :
    Visits next good state labels ↔ Along next guard state labels := by
  refine visits_iff_along_of_refused (fun {state label} refused => ?_) step exact_step sound start
  obtain ⟨after, taken⟩ := total state label
  exact absurd (refused.symm.trans taken) (by simp)

/-- Write down what each step emits, after what was written before. -/
def recording {Event : Type*} (next : Transition State Label)
    (emit : State → Label → List Event) : Transition (State × List Event) Label :=
  fun recorded label =>
    (next recorded.1 label).map fun after => (after, recorded.2 ++ emit recorded.1 label)

theorem recording_eq_some {Event : Type*} {emit : State → Label → List Event}
    {recorded : State × List Event} {label : Label} {later : State × List Event} :
    recording next emit recorded label = some later ↔
      ∃ after, next recorded.1 label = some after ∧
        (after, recorded.2 ++ emit recorded.1 label) = later :=
  Option.map_eq_some_iff

/-- Every event of a history obeys a rule that may look at the events before it. -/
def Obeys {Event : Type*} (rule : List Event → Event → Prop) (history : List Event) : Prop :=
  ∀ front event back, history = front ++ event :: back → rule front event

section Obeys

variable {Event : Type*} {rule : List Event → Event → Prop}

theorem obeys_nil (rule : List Event → Event → Prop) : Obeys rule [] := by
  intro front event back split
  simp at split

theorem obeys_concat {history : List Event} {event : Event} :
    Obeys rule (history ++ [event]) ↔ Obeys rule history ∧ rule history event := by
  constructor
  · intro obeys
    refine ⟨fun front earlier back split => ?_, obeys history event [] rfl⟩
    exact obeys front earlier (back ++ [event]) (by simp [split])
  · rintro ⟨obeys, last⟩ front other back split
    rcases List.eq_nil_or_concat back with rfl | ⟨back, final, rfl⟩
    · obtain ⟨rfl, same⟩ := List.append_inj' split rfl
      obtain rfl : event = other := by simpa using same
      exact last
    · have regrouped : history ++ [event] = (front ++ other :: back) ++ [final] := by
        simpa using split
      exact obeys front other back (List.append_inj' regrouped rfl).1

theorem obeys_append {history events : List Event} :
    Obeys rule (history ++ events) ↔
      Obeys rule history ∧ Obeys (fun front => rule (history ++ front)) events := by
  induction events using List.reverseRecOn with
  | nil => simp [obeys_nil]
  | append_singleton events event ih =>
      rw [← List.append_assoc, obeys_concat, obeys_concat, ih, and_assoc]

end Obeys

end Transition
