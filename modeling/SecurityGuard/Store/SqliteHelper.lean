import SecurityGuard.Define
import SecurityGuard.Foundation.Sql
import SecurityGuard.Foundation.Text

/-!
# Building and running statements

`SgSqliteHelper` turns named values into a statement, binds its parameters one by one and turns
the rows of the answer into named values again.  The name of a condition ends with its operator;
a parameter is named like its condition, or like the condition and a position for the items of an
IN.  The colon before a parameter is left out.
-/

namespace SecurityGuard

/-- A value of one of several types. -/
inductive VariantValue where
  | null
  | int (value : Int)
  | int64 (value : Int)
  | string (value : String)
  deriving DecidableEq

namespace VariantValue

/-- What a conversion answers for a value of another type. -/
def defaultValue : Int := -1

/-- A value of another type is read as the default. -/
def getInt64 : VariantValue → Int
  | int64 value => value
  | _ => defaultValue

/-- The text of a value, empty for every other type. -/
def getString : VariantValue → String
  | string value => value
  | _ => ""

end VariantValue

/-- Values by column, in the order of `std::map`. -/
abbrev GenericValues := SortedMap String VariantValue

namespace GenericValues

/-- A name that has a value keeps it. -/
def put (values : GenericValues) (key : String) (value : VariantValue) : GenericValues :=
  if values.contains key then values else values.insert key value

/-- The values put one after the other into none. -/
def putAll (entries : List (String × VariantValue)) : GenericValues :=
  entries.foldl (fun values entry => values.put entry.1 entry.2) .empty

/-- The value of a column, null where there is none. -/
def get (values : GenericValues) (key : String) : VariantValue := (values.get? key).getD .null

/-- The number of a column. -/
def getInt64 (values : GenericValues) (key : String) : Int :=
  ((values.get? key).map VariantValue.getInt64).getD VariantValue.defaultValue

/-- The text of a column. -/
def getString (values : GenericValues) (key : String) : String :=
  ((values.get? key).map VariantValue.getString).getD ""

/-- The columns in order. -/
def getAllKeys (values : GenericValues) : List String := values.keys

theorem get?_put (values : GenericValues) (key other : String) (value : VariantValue) :
    (values.put key value).get? other =
      if other = key then some ((values.get? key).getD value) else values.get? other := by
  unfold put
  cases found : values.get? key with
  | none => simp [SortedMap.contains, found]
  | some old =>
      by_cases same : other = key
      · simp [SortedMap.contains, found, same]
      · simp [SortedMap.contains, found, same]

end GenericValues

namespace Statement

/-- A null is not bound. -/
def bind (bindings : Sql.Bindings) (parameter : String) : VariantValue → Sql.Bindings
  | .null => bindings
  | .int value | .int64 value => bindings.insert parameter (.integer value)
  | .string value => bindings.insert parameter (.text value)

/-- The value that binding a variant leaves in its parameter. -/
def stored : VariantValue → Sql.Value
  | .null => .null
  | .int value | .int64 value => .integer value
  | .string value => .text value

theorem value_bind (bindings : Sql.Bindings) (parameter other : String) (value : VariantValue) :
    (bind bindings parameter value).value other =
      if other = parameter ∧ value ≠ .null then stored value else bindings.value other := by
  by_cases same : other = parameter
  · cases value <;> simp [bind, stored, Sql.Bindings.value, same]
  · cases value <;> simp [bind, Sql.Bindings.value, same]

/-- A text as it is read through a pointer to its first character. -/
def getColumnString (text : String) : String :=
  String.ofList (text.toList.takeWhile fun character => character ≠ '\x00')

/-- Read a value of the engine. -/
def getValue : Sql.Value → VariantValue
  | .null => .null
  | .integer value => .int64 value
  | .text value => .string (getColumnString value)

end Statement

/-! ## `SgSqliteHelper` -/

/-- The order, the limit and the columns of a query. -/
structure QueryOptions where
  orderBy : Option Sql.Order := none
  limit : Int := -1
  columns : List String := []

namespace SgSqliteHelper

/-- A text ends with a suffix. -/
def endWith (text suffix : String) : Bool := suffix.toList.isSuffixOf text.toList

/-- The parameter for one item of an IN. -/
def itemParameter (key : String) (position : Nat) : String :=
  key ++ "_" ++ toString position

/-- One parameter for each item of the list. -/
def buildInPlaceholders (key values : String) : List String :=
  (List.range (Text.split ',' values).length).map (itemParameter key)

/-- The endings of a name that stand for an operator. -/
def operators : List String := ["_IN", "_GE", "_LT", "_LIKE"]

/-- The condition that a key stands for by its suffix. -/
def buildCondition (key : String) (value : VariantValue) : Sql.Condition :=
  -- The first ending that fits decides, in the order of the source's table.
  match operators.find? (endWith key) with
  | none => .compare key .eq key
  | some ending =>
      let field := String.ofList (key.toList.take (key.length - ending.length))
      if ending = "_IN" then .isIn field (buildInPlaceholders key value.getString)
      else if ending = "_GE" then .compare field .ge key
      else if ending = "_LT" then .compare field .lt key
      else .compare field .like key

/-- The conditions of all keys. -/
def buildWhereClause (conditions : GenericValues) : List Sql.Condition :=
  conditions.getAllKeys.map fun key => buildCondition key (conditions.get key)

/-- Bind the items of a list one by one. -/
def bindItems (bindings : Sql.Bindings) (key : String) (items : List String) : Sql.Bindings :=
  items.zipIdx.foldl
    (fun bindings item => Statement.bind bindings (itemParameter key item.2) (.string item.1))
    bindings

/-- Bind the value of one key. -/
def bindCondition (conditions : GenericValues) (bindings : Sql.Bindings) (key : String) :
    Sql.Bindings :=
  let value := conditions.get key
  -- Binding looks for the mark anywhere in the name, the clause only at its end.
  if "_IN".toList <:+: key.toList then bindItems bindings key (Text.split ',' value.getString)
  else Statement.bind bindings key value

/-- Bind the values of all keys. -/
def prepareBoundStateStmt (conditions : GenericValues) : Sql.Bindings :=
  conditions.getAllKeys.foldl (bindCondition conditions) .empty

/-- Read the columns of a row. -/
def executeRowData (schema : Sql.Schema) (columns : List String) (row : Sql.Row) : GenericValues :=
  columns.foldl
    (fun values column =>
      match Statement.getValue (row.value schema column) with
      | .null => values.put column (.string "")
      | value => values.put column value)
    .empty

variable {schema : Sql.Schema} (engine : Sql.Engine schema) (store : Sql.Store)

/-- The bindings of an INSERT, whose parameters are named like the columns. -/
def bindValues (values : GenericValues) (keys : List String) : Sql.Bindings :=
  keys.foldl (fun bindings key => Statement.bind bindings key (values.get key)) .empty

/-- Insert a row. -/
def insert (values : GenericValues) : Code × Sql.Store :=
  if values.getAllKeys = [] then (Code.failed, store)
  else
    let step := engine.insert store (bindValues values values.getAllKeys)
      (values.getAllKeys.map fun key => (key, key))
    (if step.1 then Code.success else Code.failed, step.2)

/-- Delete the rows that meet the conditions. -/
def delete (conditions : GenericValues) : Code × Sql.Store :=
  let step :=
    engine.delete store (prepareBoundStateStmt conditions) (buildWhereClause conditions)
  (if step.1 then Code.success else Code.failed, step.2)

/-- The number of rows, if there is an answer. -/
def count (conditions : GenericValues) : Option Nat × Sql.Store :=
  engine.count store (prepareBoundStateStmt conditions) (buildWhereClause conditions)

/-- The rows that the engine returns; however its steps end, the query is a success. -/
def query (conditions : GenericValues) (options : QueryOptions) :
    Code × List GenericValues × Sql.Store :=
  let selected := engine.select store (prepareBoundStateStmt conditions)
    { conditions := buildWhereClause conditions
      order := options.orderBy
      limit := if 0 < options.limit then some options.limit.toNat else none }
  let columns :=
    if options.columns = [] then schema.key :: schema.columns.map Prod.fst else options.columns
  (Code.success, selected.1.map (executeRowData schema columns), selected.2)

theorem value_bindValues (values : GenericValues) (keys : List String) (column : String) :
    (bindValues values keys).value column =
      if column ∈ keys then Statement.stored (values.get column) else .null := by
  induction keys using List.reverseRecOn with
  | nil => rfl
  | append_singleton keys key ih =>
      rw [bindValues, List.foldl_append, List.foldl_cons, List.foldl_nil, Statement.value_bind,
        ← bindValues, ih]
      by_cases same : column = key
      · subst same
        cases values.get column <;> simp [Statement.stored]
      · simp [same]

theorem lookup_diagonal (keys : List String) (column : String) :
    (keys.map fun key => (key, key)).lookup column =
      if column ∈ keys then some column else none := by
  induction keys with
  | nil => rfl
  | cons key keys ih =>
      rw [List.map_cons, List.lookup_cons, ih]
      by_cases same : column = key
      · simp [same]
      · simp [same, beq_eq_false_iff_ne.mpr same]

theorem cells_insert (values : GenericValues) (column : String) :
    schema.cells (bindValues values values.getAllKeys)
      (values.getAllKeys.map fun key => (key, key)) column =
      (schema.affinity column).convert (Statement.stored (values.get column)) := by
  rw [Sql.Schema.cells, lookup_diagonal]
  by_cases bound : column ∈ values.getAllKeys
  · simp [bound, value_bindValues]
  · have absent : values.get? column = none := by
      simpa [GenericValues.getAllKeys, SortedMap.mem_keys_iff, SortedMap.contains] using bound
    simp [bound, GenericValues.get, absent, Statement.stored]

variable {engine store}

/-- With a value for every column, an insertion adds one row. -/
theorem insert_of_works (works : engine.failure store.executed = none) {values : GenericValues}
    (complete : ∀ column ∈ schema.columns,
      (schema.affinity column.1).convert (Statement.stored (values.get column.1)) ≠ .null)
    (filled : values.getAllKeys ≠ []) :
    insert engine store values =
      (Code.success,
        { table := store.table.append fun column =>
            (schema.affinity column).convert (Statement.stored (values.get column))
          executed := store.executed + 1 }) := by
  have cells : schema.cells (bindValues values values.getAllKeys)
      (values.getAllKeys.map fun key => (key, key)) =
      fun column => (schema.affinity column).convert (Statement.stored (values.get column)) :=
    funext (cells_insert values)
  have valued : ∀ column ∈ schema.columns,
      schema.cells (bindValues values values.getAllKeys)
        (values.getAllKeys.map fun key => (key, key)) column.1 ≠ .null := by
    simpa only [cells] using complete
  have done := Sql.Engine.insert_of_works works valued
  rw [cells] at done
  rw [insert, if_neg filled, done]
  rfl

theorem buildCondition_in (field : String) (value : VariantValue) :
    buildCondition (field ++ "_IN") value =
      .isIn field (buildInPlaceholders (field ++ "_IN") value.getString) := by
  have found : operators.find? (endWith (field ++ "_IN")) = some "_IN" := by
    simp [operators, endWith]
  have size : (field ++ "_IN").length - "_IN".length = field.toList.length := by
    rw [String.length_append, Nat.add_sub_cancel, String.length_toList]
  have named : String.ofList ((field ++ "_IN").toList.take
      ((field ++ "_IN").length - "_IN".length)) = field := by
    rw [size, String.toList_append, List.take_left, String.ofList_toList]
  rw [buildCondition, found]
  simp only [named, if_true]

end SgSqliteHelper

end SecurityGuard
