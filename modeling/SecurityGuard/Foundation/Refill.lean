import Mathlib.Data.List.Nodup

/-!
# Refilling a set one item at a time

A fold over a list of distinct items tries to enter each into a set.  Whether an item is admitted
may depend on the items that were entered before it.
-/

/-- Turns that each enter one item into a set, or leave the set as it is. -/
structure Refills {State Item : Type*} (turn : State → Item → State)
    (held : State → Item → Bool) (ready : State → Prop) (admits : List Item → Item → Prop) :
    Prop where
  keeps_ready : ∀ {state : State} (item : Item), ready state → ready (turn state item)
  others : ∀ {state : State} {item other : Item}, ready state → other ≠ item →
    held (turn state item) other = held state other
  own : ∀ {state : State} {front : List Item} {item : Item}, ready state → item ∉ front →
    (∀ other, held state other = true ↔ other ∈ front) →
    (held (turn state item) item = true ↔ admits front item)

namespace Refills

variable {State Item : Type*} {turn : State → Item → State} {held : State → Item → Bool}
  {ready : State → Prop} {admits : List Item → Item → Prop}

theorem held_foldl (refills : Refills turn held ready admits) {items : List Item} {state : State}
    {other : Item} (holds : ready state) (absent : other ∉ items) :
    held (items.foldl turn state) other = held state other := by
  induction items generalizing state with
  | nil => rfl
  | cons item items ih =>
      obtain ⟨ne, absent⟩ := not_or.mp (mt List.mem_cons.mpr absent)
      rw [List.foldl_cons, ih (refills.keeps_ready item holds) absent, refills.others holds ne]

theorem held_turn (refills : Refills turn held ready admits) {state : State} {front : List Item}
    {item : Item} (holds : ready state)
    (filled : ∀ other, held state other = true ↔ other ∈ front)
    (entered : held (turn state item) item = true) (other : Item) :
    held (turn state item) other = true ↔ other ∈ front ++ [item] := by
  rw [List.mem_append, List.mem_singleton]
  rcases eq_or_ne other item with rfl | ne
  · exact ⟨fun _ => .inr rfl, fun _ => entered⟩
  · rw [refills.others holds ne, filled]
    exact ⟨.inl, fun joined => joined.resolve_right ne⟩

theorem foldl_from (refills : Refills turn held ready admits) {items front : List Item}
    {state : State} (holds : ready state)
    (filled : ∀ other, held state other = true ↔ other ∈ front)
    (distinct : (front ++ items).Nodup) :
    (∀ item ∈ items, held (items.foldl turn state) item = true) ↔
      ∀ middle item back, items = middle ++ item :: back → admits (front ++ middle) item := by
  induction items generalizing front state with
  | nil => simp
  | cons item items ih =>
      obtain ⟨fresh, later⟩ : item ∉ front ∧ item ∉ items := by
        have parts := List.nodup_append.mp distinct
        exact ⟨fun mem => parts.2.2 item mem item (by simp) rfl,
          (List.nodup_cons.mp parts.2.1).1⟩
      have own := refills.own holds fresh filled
      have rest (admitted : admits front item) :=
        ih (refills.keeps_ready item holds) (refills.held_turn holds filled (own.mpr admitted))
          (by simpa using distinct)
      rw [List.foldl_cons, List.forall_mem_cons,
        refills.held_foldl (refills.keeps_ready item holds) later, own]
      constructor
      · rintro ⟨admitted, others⟩ middle other back split
        cases middle with
        | nil =>
            obtain ⟨rfl, -⟩ := List.cons.inj split
            rwa [List.append_nil]
        | cons first middle =>
            obtain ⟨rfl, rfl⟩ := List.cons.inj split
            simpa using (rest admitted).mp others middle other back rfl
      · intro each
        have admitted : admits front item := by simpa using each [] item items rfl
        refine ⟨admitted, (rest admitted).mpr ?_⟩
        intro middle other back split
        simpa using each (item :: middle) other back (by rw [split, List.cons_append])

/-- Every item gets into an empty set exactly when each is admitted in its turn. -/
theorem foldl_empty (refills : Refills turn held ready admits) (state : State)
    {items : List Item} (holds : ready state) (empty : ∀ item, held state item = false)
    (distinct : items.Nodup) :
    (∀ item ∈ items, held (items.foldl turn state) item = true) ↔
      ∀ front item back, items = front ++ item :: back → admits front item := by
  have filled : ∀ other, held state other = true ↔ other ∈ [] := by simp [empty]
  simpa using refills.foldl_from holds filled distinct

theorem foldl_empty_alone {admits : Item → Prop}
    (refills : Refills turn held ready fun _ item => admits item) (state : State)
    {items : List Item} (holds : ready state) (empty : ∀ item, held state item = false)
    (distinct : items.Nodup) :
    (∀ item ∈ items, held (items.foldl turn state) item = true) ↔
      ∀ item ∈ items, admits item := by
  rw [refills.foldl_empty state holds empty distinct]
  constructor
  · intro each item mem
    obtain ⟨front, back, split⟩ := List.append_of_mem mem
    exact each front item back split
  · rintro each front item back rfl
    exact each item (by simp)

end Refills
