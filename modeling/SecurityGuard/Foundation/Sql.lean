import Mathlib.Data.List.Infix
import Mathlib.Data.List.Nodup
import Mathlib.Data.List.Sort
import Mathlib.Data.String.Basic
import SecurityGuard.Foundation.SortedMap
import SecurityGuard.Foundation.Text

/-!
# Tables and statements

The part of SQL that a program with one table and bound parameters uses: a statement inserts a
row, or it selects, counts or deletes the rows that meet a conjunction of comparisons.  An engine
chooses the order of an answer wherever the statement leaves it open, and any of its statements
may fail.
-/

namespace Sql

/-- A value in a row or bound to a parameter. -/
inductive Value where
  | null
  | integer (value : Int)
  | text (value : String)
  deriving DecidableEq

/-- The kind of values that a column prefers. -/
inductive Affinity where
  | integer
  | text
  deriving DecidableEq

/-- A value as a column of the affinity stores it and is compared with it. -/
def Affinity.convert : Affinity → Value → Value
  | integer, .text numeral => ((Text.readInteger numeral).map Value.integer).getD (.text numeral)
  | text, .integer value => .text (toString value)
  | _, value => value

@[simp]
theorem Affinity.convert_null (affinity : Affinity) : affinity.convert .null = .null := by
  cases affinity <;> rfl

@[simp]
theorem Affinity.convert_integer (value : Int) :
    Affinity.integer.convert (.integer value) = .integer value := rfl

@[simp]
theorem Affinity.convert_text (value : String) :
    Affinity.text.convert (.text value) = .text value := rfl

theorem Affinity.convert_numeral (value : Int) :
    Affinity.integer.convert (.text (toString value)) = .integer value := by
  rw [convert, Text.readInteger_toString, Option.map_some, Option.getD_some]

namespace Value

/-- The order of an answer: null, then the integers, then the texts character by character. -/
def le : Value → Value → Bool
  | null, _ => true
  | integer left, integer right => decide (left ≤ right)
  | integer _, text _ => true
  | text left, text right => decide (left ≤ right)
  | _, _ => false

theorem le_total (left right : Value) : left.le right = true ∨ right.le left = true := by
  cases left <;> cases right <;> simp only [le, decide_eq_true_eq, or_true, true_or]
  · exact Int.le_total _ _
  · exact String.le_total _ _

theorem le_trans {first second third : Value} (before : first.le second = true)
    (after : second.le third = true) : first.le third = true := by
  cases first <;> cases second <;> cases third <;>
    simp only [le, decide_eq_true_eq, Bool.false_eq_true] at before after ⊢
  · exact Int.le_trans before after
  · exact String.le_trans before after

/-- A value as a text. -/
def toText : Value → String
  | null => ""
  | integer value => toString value
  | text value => value

end Value

/-- The pattern of LIKE: `%` stands for any text, `_` for one character, and the case of a letter
does not matter. -/
def like : List Char → List Char → Bool
  | [], text => text.isEmpty
  | '%' :: rest, text => text.tails.any (like rest)
  | '_' :: rest, text => !text.isEmpty && like rest text.tail
  | mark :: rest, text =>
      text.head?.any (fun first => mark.toLower = first.toLower) && like rest text.tail

/-- The columns of a table beside the integer key that the table numbers its rows with. -/
structure Schema where
  key : String
  columns : List (String × Affinity)

/-- The affinity of a column. -/
def Schema.affinity (schema : Schema) (column : String) : Affinity :=
  if column = schema.key then .integer else (schema.columns.lookup column).getD .text

/-- A row with its key and its cells. -/
structure Row where
  id : Int
  cells : String → Value

/-- The value of a column, of which the key is one. -/
def Row.value (schema : Schema) (row : Row) (column : String) : Value :=
  if column = schema.key then .integer row.id else row.cells column

/-- The values bound to the parameters of a statement; a parameter without one is null. -/
abbrev Bindings := SortedMap String Value

/-- The value of a parameter; one that is not bound is null. -/
def Bindings.value (bindings : Bindings) (parameter : String) : Value :=
  (bindings.get? parameter).getD .null

/-- The cells of a new row, whose columns take the values of the parameters listed for them. -/
def Schema.cells (schema : Schema) (bindings : Bindings) (targets : List (String × String))
    (column : String) : Value :=
  ((targets.lookup column).map fun parameter =>
    (schema.affinity column).convert (bindings.value parameter)).getD .null

/-- A comparison of a condition. -/
inductive Operator where
  | eq
  | ge
  | lt
  | like
  deriving DecidableEq

/-- A comparison with null holds of nothing. -/
def Operator.holds (operator : Operator) (left right : Value) : Bool :=
  left ≠ .null && right ≠ .null &&
    match operator with
    | eq => left = right
    | ge => right.le left
    | lt => !right.le left
    | like => Sql.like right.toText.toList left.toText.toList

@[simp]
theorem Operator.eq_holds_integer {left : Value} {value : Int} :
    eq.holds left (.integer value) = true ↔ left = .integer value := by
  simp only [holds, Bool.and_eq_true, decide_eq_true_eq]
  constructor
  · rintro ⟨-, same⟩
    exact same
  · rintro rfl
    simp

/-- A term of the conjunction after WHERE. -/
inductive Condition where
  | compare (column : String) (operator : Operator) (parameter : String)
  | isIn (column : String) (parameters : List String)
  deriving DecidableEq

/-- The column of a condition. -/
def Condition.column : Condition → String
  | compare column _ _ | isIn column _ => column

/-- The parameters that occur in a condition, in their order. -/
def Condition.parameters : Condition → List String
  | compare _ _ parameter => [parameter]
  | isIn _ parameters => parameters

/-- How an answer is ordered. -/
structure Order where
  column : String
  descending : Bool := false
  deriving DecidableEq

/-- A row comes before another one, or with it. -/
def Order.precedes (schema : Schema) (order : Order) (first second : Row) : Prop :=
  if order.descending then (second.value schema order.column).le (first.value schema order.column)
  else (first.value schema order.column).le (second.value schema order.column)

section Conditions

variable (schema : Schema) (bindings : Bindings)

/-- Compare a column with a parameter as the column stores it. -/
def compares (row : Row) (column : String) (operator : Operator) (parameter : String) : Bool :=
  operator.holds (row.value schema column)
    ((schema.affinity column).convert (bindings.value parameter))

/-- A row meets a condition. -/
def Condition.holds (row : Row) : Condition → Bool
  | compare column operator parameter => compares schema bindings row column operator parameter
  | isIn column parameters => parameters.any (compares schema bindings row column .eq)

/-- A row meets all conditions. -/
def matching (conditions : List Condition) (row : Row) : Bool :=
  conditions.all (Condition.holds schema bindings row)

end Conditions

/-- A table numbers its rows in the order of their insertion and never uses a number twice. -/
@[ext]
structure Table where
  rows : List Row := []
  nextId : Int := 1
  distinct : (rows.map Row.id).Nodup := by simp
  fresh : ∀ row ∈ rows, row.id < nextId := by simp

namespace Table

variable (table : Table)

/-- Keep some of the rows. -/
def restrict (kept : Row → Bool) : Table where
  rows := table.rows.filter kept
  nextId := table.nextId
  distinct := table.distinct.sublist (List.filter_sublist.map Row.id)
  fresh row mem := table.fresh row (List.mem_of_mem_filter mem)

theorem fresh_nextId : table.nextId ∉ table.rows.map Row.id := by
  intro mem
  obtain ⟨row, inside, same⟩ := List.mem_map.mp mem
  exact absurd (table.fresh row inside) (by omega)

/-- Add a row with the next key. -/
def append (cells : String → Value) : Table where
  rows := table.rows ++ [{ id := table.nextId, cells }]
  nextId := table.nextId + 1
  distinct := by
    rw [List.map_append, List.nodup_append]
    refine ⟨table.distinct, by simp, ?_⟩
    intro number inside other single same
    have last : other = table.nextId := List.mem_singleton.mp single
    exact table.fresh_nextId (last ▸ same ▸ inside)
  fresh row mem := by
    rcases List.mem_append.mp mem with old | new
    · have := table.fresh row old
      omega
    · rw [List.mem_singleton.mp new]
      exact Int.lt_succ table.nextId

@[simp]
theorem rows_restrict (kept : Row → Bool) : (table.restrict kept).rows = table.rows.filter kept :=
  rfl

theorem restrict_of_forall {kept : Row → Bool} (all : ∀ row ∈ table.rows, kept row = true) :
    table.restrict kept = table :=
  Table.ext (List.filter_eq_self.mpr all) rfl

@[simp]
theorem mem_restrict {kept : Row → Bool} {row : Row} :
    row ∈ (table.restrict kept).rows ↔ row ∈ table.rows ∧ kept row = true :=
  List.mem_filter

@[simp]
theorem mem_append {cells : String → Value} {row : Row} :
    row ∈ (table.append cells).rows ↔ row ∈ table.rows ∨ row = { id := table.nextId, cells } := by
  simp [append]

variable {table}

/-- The number of a row identifies it. -/
theorem eq_of_id {row other : Row} (mem : row ∈ table.rows) (mem' : other ∈ table.rows)
    (same : row.id = other.id) : row = other :=
  List.inj_on_of_nodup_map table.distinct mem mem' same

end Table

/-! ## Engines -/

/-- The part of an answer that a statement asks for. -/
structure Selection where
  conditions : List Condition
  order : Option Order := none
  limit : Option Nat := none

/-- How an engine answers.  The order of an answer may depend on the number of statements that
came before; so does which statements fail, after how many rows. -/
structure Engine (schema : Schema) where
  arrange : Nat → Option Order → List Row → List Row
  arrange_perm : ∀ time order rows, (arrange time order rows).Perm rows
  arrange_sorted : ∀ time order rows,
    (arrange time (some order) rows).Pairwise (order.precedes schema)
  failure : Nat → Option Nat := fun _ => none

namespace Order

variable (schema : Schema) (order : Order)

instance : DecidableRel (order.precedes schema) := fun _ _ =>
  inferInstanceAs (Decidable (_ = true))

instance : Std.Total (order.precedes schema) where
  total first second := by
    unfold precedes
    split
    · exact Value.le_total _ _
    · exact Value.le_total _ _

instance : IsTrans Row (order.precedes schema) where
  trans first second third before after := by
    unfold precedes at *
    by_cases descending : order.descending = true
    · rw [if_pos descending] at *
      exact Value.le_trans after before
    · rw [if_neg descending] at *
      exact Value.le_trans before after

end Order

/-- The engine that never fails and returns rows in the order of their insertion unless a
statement asks for another one. -/
def Engine.sequential (schema : Schema) : Engine schema where
  arrange _ order rows :=
    match order with
    | none => rows
    | some order => rows.insertionSort (order.precedes schema)
  arrange_perm _ order rows := by
    cases order with
    | none => exact List.Perm.refl rows
    | some order => exact List.perm_insertionSort _ rows
  arrange_sorted _ order rows := List.pairwise_insertionSort _ rows

/-- Every statement succeeds. -/
def Engine.Reliable {schema : Schema} (engine : Engine schema) : Prop :=
  ∀ time, engine.failure time = none

/-- A table and the number of the statements executed on it. -/
structure Store where
  table : Table := {}
  executed : Nat := 0

namespace Engine

variable {schema : Schema} (engine : Engine schema) (store : Store) (bindings : Bindings)

/-- The rows that the steps of a SELECT return, in their order. -/
def select (selection : Selection) : List Row × Store :=
  let found := engine.arrange store.executed selection.order
    (store.table.rows.filter (matching schema bindings selection.conditions))
  let asked := (selection.limit.map found.take).getD found
  (((engine.failure store.executed).map asked.take).getD asked,
    { store with executed := store.executed + 1 })

/-- The number that the first step of SELECT COUNT returns. -/
def count (conditions : List Condition) : Option Nat × Store :=
  ((if engine.failure store.executed = some 0 then none
    else some (store.table.rows.countP (matching schema bindings conditions))),
    { store with executed := store.executed + 1 })

/-- DELETE, and whether it is done. -/
def delete (conditions : List Condition) : Bool × Store :=
  if (engine.failure store.executed).isSome then
    (false, { store with executed := store.executed + 1 })
  else
    (true,
      { table := store.table.restrict fun row => !matching schema bindings conditions row
        executed := store.executed + 1 })

/-- INSERT, and whether it is done: no column of a row may be null. -/
def insert (targets : List (String × String)) : Bool × Store :=
  let cells := schema.cells bindings targets
  if (engine.failure store.executed).isSome ∨ ∃ column ∈ schema.columns, cells column.1 = .null then
    (false, { store with executed := store.executed + 1 })
  else
    (true, { table := store.table.append cells, executed := store.executed + 1 })

variable {engine store bindings}

theorem select_of_reliable (reliable : engine.Reliable) (selection : Selection) :
    (engine.select store bindings selection).1 =
      let found := engine.arrange store.executed selection.order
        (store.table.rows.filter (matching schema bindings selection.conditions))
      (selection.limit.map found.take).getD found := by
  simp only [select, reliable store.executed, Option.map_none, Option.getD_none]

theorem mem_select (reliable : engine.Reliable) {selection : Selection}
    (unlimited : selection.limit = none) {row : Row} :
    row ∈ (engine.select store bindings selection).1 ↔
      row ∈ store.table.rows ∧ matching schema bindings selection.conditions row = true := by
  rw [select_of_reliable reliable, unlimited]
  exact (engine.arrange_perm _ _ _).mem_iff.trans List.mem_filter

variable (store bindings) in
/-- A limit leaves out rows that come no earlier in the order. -/
theorem select_first (reliable : engine.Reliable) (conditions : List Condition) (order : Order)
    (limit : Nat) :
    ∃ rest,
      ((engine.select store bindings
        { conditions, order := some order, limit := some limit }).1 ++ rest).Perm
        (store.table.rows.filter (matching schema bindings conditions)) ∧
      ∀ first ∈ (engine.select store bindings
          { conditions, order := some order, limit := some limit }).1,
        ∀ second ∈ rest, order.precedes schema first second := by
  rw [select_of_reliable reliable]
  refine ⟨(engine.arrange store.executed (some order)
    (store.table.rows.filter (matching schema bindings conditions))).drop limit, ?_, ?_⟩
  · simp only [Option.map_some, Option.getD_some, List.take_append_drop]
    exact engine.arrange_perm _ _ _
  · have sorted := engine.arrange_sorted store.executed order
      (store.table.rows.filter (matching schema bindings conditions))
    rw [← List.take_append_drop limit (engine.arrange _ _ _), List.pairwise_append] at sorted
    exact sorted.2.2

theorem length_select (reliable : engine.Reliable) (conditions : List Condition)
    (order : Option Order) (limit : Nat) :
    (engine.select store bindings { conditions, order, limit := some limit }).1.length =
      min limit (store.table.rows.countP (matching schema bindings conditions)) := by
  rw [select_of_reliable reliable, List.countP_eq_length_filter]
  simp [(engine.arrange_perm _ _ _).length_eq]

theorem count_of_reliable (reliable : engine.Reliable) (conditions : List Condition) :
    engine.count store bindings conditions =
      (some (store.table.rows.countP (matching schema bindings conditions)),
        { store with executed := store.executed + 1 }) := by
  simp [count, reliable store.executed]

theorem delete_of_works (works : engine.failure store.executed = none)
    (conditions : List Condition) :
    engine.delete store bindings conditions =
      (true,
        { table := store.table.restrict fun row => !matching schema bindings conditions row
          executed := store.executed + 1 }) := by
  simp [delete, works]

theorem delete_of_fails (fails : (engine.failure store.executed).isSome = true)
    (conditions : List Condition) :
    engine.delete store bindings conditions =
      (false, { store with executed := store.executed + 1 }) := by
  rw [delete, if_pos fails]

theorem insert_of_works (works : engine.failure store.executed = none)
    {targets : List (String × String)}
    (complete : ∀ column ∈ schema.columns, schema.cells bindings targets column.1 ≠ .null) :
    engine.insert store bindings targets =
      (true,
        { table := store.table.append (schema.cells bindings targets)
          executed := store.executed + 1 }) := by
  have valued : ¬∃ column ∈ schema.columns, schema.cells bindings targets column.1 = .null := by
    rintro ⟨column, mem, missing⟩
    exact complete column mem missing
  simp [insert, works, valued]

theorem insert_of_fails (fails : (engine.failure store.executed).isSome = true)
    (targets : List (String × String)) :
    engine.insert store bindings targets =
      (false, { store with executed := store.executed + 1 }) := by
  rw [insert, if_pos (Or.inl fails)]

end Engine

end Sql
