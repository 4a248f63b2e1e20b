import Mathlib.Algebra.Order.Group.Multiset
import Mathlib.Algebra.Order.Ring.Nat

/-!
# Retention

A log keeps items of several kinds.  Before an item is appended, the oldest items of its kind make
room for it, as many as the quota of the kind asks for; items may also be dropped on their own.
Which of two items of one age is dropped first is left open.
-/

namespace Retention

variable {Item Kind : Type*} [DecidableEq Kind]

/-- What can be done to a log. -/
inductive Operation (Item Kind : Type*) where
  | append (item : Item) (quota : Option ℕ)
  | drop (kind : Kind) (count : ℕ)
  | clear (kind : Kind)

/-- The items that an operation adds. -/
def Operation.added : Operation Item Kind → List Item
  | append item _ => [item]
  | drop _ _ | clear _ => []

/-- How many items of a kind have to go before one more is appended. -/
def demand (quota : Option ℕ) (size : ℕ) : ℕ :=
  (quota.map fun limit => size + 1 - limit).getD 0

section

variable (kind : Item → Kind)

/-- The number of items of a kind. -/
def size (own : Kind) (log : Multiset Item) : ℕ := log.countP fun item => kind item = own

variable (older : Item → Item → Prop)

/-- Items of a kind are dropped, as many as asked for or all there are, and none of them is newer
than one of their kind that stays. -/
structure Drops (own : Kind) (count : ℕ) (before after dropped : Multiset Item) : Prop where
  split : before = dropped + after
  kept : ∀ item ∈ dropped, kind item = own
  number : dropped.card = min count (size kind own before)
  oldest : ∀ gone ∈ dropped, ∀ stays ∈ after, kind stays = own → older gone stays

/-- One operation, and the items that it drops. -/
inductive Step : Operation Item Kind → Multiset Item → Multiset Item → Multiset Item → Prop
  | append {before middle dropped : Multiset Item} (item : Item) (quota : Option ℕ)
      (drops : Drops kind older (kind item) (demand quota (size kind (kind item) before)) before
        middle dropped) :
      Step (.append item quota) before (item ::ₘ middle) dropped
  | drop {before after dropped : Multiset Item} (own : Kind) (count : ℕ)
      (drops : Drops kind older own count before after dropped) :
      Step (.drop own count) before after dropped
  | clear {before after dropped : Multiset Item} (own : Kind)
      (drops : Drops kind older own (size kind own before) before after dropped) :
      Step (.clear own) before after dropped

/-- A sequence of operations, and all the items that they drop. -/
inductive Runs : List (Operation Item Kind) → Multiset Item → Multiset Item → Multiset Item → Prop
  | nil (log : Multiset Item) : Runs [] log log 0
  | cons {operation : Operation Item Kind} {operations : List (Operation Item Kind)}
      {before middle after dropped lost : Multiset Item}
      (step : Step kind older operation before middle dropped)
      (rest : Runs operations middle after lost) :
      Runs (operation :: operations) before after (dropped + lost)

end

variable {kind : Item → Kind} {older : Item → Item → Prop} {own : Kind} {count : ℕ}
  {before middle after dropped lost : Multiset Item} {operation : Operation Item Kind}
  {operations : List (Operation Item Kind)}

theorem Drops.nothing (kind : Item → Kind) (older : Item → Item → Prop) (own : Kind)
    (log : Multiset Item) : Drops kind older own 0 log log 0 where
  split := (zero_add log).symm
  kept item mem := absurd mem (Multiset.notMem_zero item)
  number := by rw [Multiset.card_zero, Nat.zero_min]
  oldest gone mem := absurd mem (Multiset.notMem_zero gone)

theorem Drops.size_dropped (drops : Drops kind older own count before after dropped) :
    size kind own dropped = dropped.card :=
  Multiset.countP_eq_card.mpr drops.kept

theorem Drops.size_self (drops : Drops kind older own count before after dropped) :
    size kind own after = size kind own before - count := by
  have parts : size kind own before = size kind own dropped + size kind own after := by
    rw [drops.split]
    exact Multiset.countP_add _ _ _
  have number := drops.number
  rw [drops.size_dropped] at parts
  omega

theorem Drops.size_le (drops : Drops kind older own count before after dropped) (other : Kind) :
    size kind other after ≤ size kind other before := by
  rw [drops.split]
  exact (Nat.le_add_left _ _).trans_eq (Multiset.countP_add _ _ _).symm

theorem size_cons (kind : Item → Kind) (own : Kind) (item : Item) (log : Multiset Item) :
    size kind own (item ::ₘ log) = size kind own log + if kind item = own then 1 else 0 :=
  Multiset.countP_cons _ _ _

/-- The operation leaves at most a number of items of a kind. -/
def Operation.Within (kind : Item → Kind) (own : Kind) (bound : ℕ) : Operation Item Kind → Prop
  | append item quota => kind item = own → ∃ limit ≤ bound, quota = some limit
  | drop _ _ | clear _ => True

/-- After an item was appended there are no more of its kind than the quota, but one at least. -/
theorem size_append_le {item : Item} {limit : ℕ}
    (drops : Drops kind older (kind item) (demand (some limit) (size kind (kind item) before))
      before middle dropped) :
    size kind (kind item) (item ::ₘ middle) ≤ max limit 1 := by
  have left := drops.size_self
  rw [demand, Option.map_some, Option.getD_some] at left
  rw [size_cons, if_pos rfl]
  omega

theorem Step.size_le {bound : ℕ} (step : Step kind older operation before after dropped)
    (positive : 1 ≤ bound) (within : operation.Within kind own bound)
    (start : size kind own before ≤ bound) : size kind own after ≤ bound := by
  cases step with
  | append item quota drops =>
      by_cases same : kind item = own
      · obtain ⟨limit, small, rfl⟩ := within same
        subst same
        exact (size_append_le drops).trans (max_le small positive)
      · rw [size_cons, if_neg same]
        exact (drops.size_le own).trans start
  | drop other count drops => exact (drops.size_le own).trans start
  | clear other drops => exact (drops.size_le own).trans start

/-- A kind stays within the largest of its quotas. -/
theorem Runs.size_le {bound : ℕ} (runs : Runs kind older operations before after lost)
    (positive : 1 ≤ bound) (within : ∀ operation ∈ operations, operation.Within kind own bound)
    (start : size kind own before ≤ bound) : size kind own after ≤ bound := by
  induction runs with
  | nil => exact start
  | cons step _ ih =>
      refine ih (fun operation mem => within operation (List.mem_cons_of_mem _ mem)) ?_
      exact step.size_le positive (within _ List.mem_cons_self) start

theorem Step.balance (step : Step kind older operation before after dropped) :
    before + ↑operation.added = dropped + after := by
  cases step with
  | append item quota drops =>
      rw [drops.split, Operation.added, Multiset.coe_singleton, add_assoc,
        ← Multiset.singleton_add]
      exact congrArg (dropped + ·) (add_comm _ _)
  | drop own count drops => exact (add_zero _).trans drops.split
  | clear own drops => exact (add_zero _).trans drops.split

theorem Runs.balance (runs : Runs kind older operations before after lost) :
    before + ↑(operations.flatMap Operation.added) = lost + after := by
  induction runs with
  | nil => rw [List.flatMap_nil, Multiset.coe_nil, add_zero, zero_add]
  | cons step _ ih =>
      rw [List.flatMap_cons, ← Multiset.coe_add, ← add_assoc, step.balance, add_assoc, ih,
        add_assoc]

/-- The first item is no newer than the second, if they are of one kind. -/
def Follows (kind : Item → Kind) (older : Item → Item → Prop) (old new : Item) : Prop :=
  kind new = kind old → older old new

/-- No lost item is newer than a kept one of its kind. -/
def Newest (kind : Item → Kind) (older : Item → Item → Prop) (lost log : Multiset Item) : Prop :=
  ∀ gone ∈ lost, ∀ stays ∈ log, Follows kind older gone stays

theorem Drops.newest (drops : Drops kind older own count before after dropped)
    (newest : Newest kind older lost before) : Newest kind older (lost + dropped) after := by
  intro gone mem stays kept same
  rcases Multiset.mem_add.mp mem with earlier | now
  · exact newest gone earlier stays (drops.split ▸ Multiset.mem_add.mpr (.inr kept)) same
  · exact drops.oldest gone now stays kept (same.trans (drops.kept gone now))

theorem Step.newest (step : Step kind older operation before after dropped)
    (newest : Newest kind older lost before)
    (follows : ∀ old ∈ lost + before, ∀ new ∈ operation.added, Follows kind older old new) :
    Newest kind older (lost + dropped) after := by
  cases step with
  | append item quota drops =>
      intro gone mem stays kept
      rcases Multiset.mem_cons.mp kept with rfl | kept
      · refine follows gone ?_ stays List.mem_cons_self
        rw [drops.split, ← add_assoc]
        exact Multiset.mem_add.mpr (.inl mem)
      · exact drops.newest newest gone mem stays kept
  | drop own count drops => exact drops.newest newest
  | clear own drops => exact drops.newest newest

/-- Where the items of every kind come in the order of their age, the newest are kept. -/
theorem Runs.newest {gone : Multiset Item} (runs : Runs kind older operations before after lost)
    (newest : Newest kind older gone before)
    (follows : ∀ old ∈ gone + before, ∀ new ∈ operations.flatMap Operation.added,
      Follows kind older old new)
    (ordered : (operations.flatMap Operation.added).Pairwise (Follows kind older)) :
    Newest kind older (gone + lost) after := by
  induction runs generalizing gone with
  | nil => rwa [add_zero]
  | cons step _ ih =>
      rw [List.flatMap_cons] at follows ordered
      obtain ⟨-, ordered, between⟩ := List.pairwise_append.mp ordered
      rw [← add_assoc]
      refine ih (step.newest newest fun old mem new mem' =>
        follows old mem new (List.mem_append_left _ mem')) ?_ ordered
      intro old mem new later
      rw [add_assoc, ← step.balance, ← add_assoc] at mem
      rcases Multiset.mem_add.mp mem with earlier | now
      · exact follows old earlier new (List.mem_append_right _ later)
      · exact between old (Multiset.mem_coe.mp now) new later

theorem Runs.append {later : List (Operation Item Kind)} {final lost' : Multiset Item}
    (runs : Runs kind older operations before after lost)
    (runs' : Runs kind older later after final lost') :
    Runs kind older (operations ++ later) before final (lost + lost') := by
  induction runs with
  | nil => rwa [zero_add]
  | cons step _ ih =>
      rw [add_assoc]
      exact .cons step (ih runs')

end Retention
