import SecurityGuard.Event
import SecurityGuard.Store.Parameters

/-!
# The table of risk events

`DatabaseHelper` keeps an event in a row, counts and deletes the rows of an event id, and turns
rows into events again.
-/

namespace SecurityGuard

namespace DatabaseHelper

def int32Min : Int := -2147483648
def int32Max : Int := 2147483647

/-- The table as `CreateTable` declares it. -/
def schema : Sql.Schema where
  key := "id"
  columns :=
    [("event_id", .integer), ("version", .text), ("date", .text), ("content", .text),
      ("event_type", .integer), ("data_sensitivity_level", .integer), ("owner", .text),
      ("user_id", .integer), ("device_id", .text)]

/-- The cells of an event. -/
def setValuesBucket (event : SecEvent) : GenericValues :=
  GenericValues.putAll
    [("event_id", .int64 event.eventId), ("version", .string event.version),
      ("date", .string event.date), ("content", .string event.content),
      ("event_type", .int event.eventType),
      ("data_sensitivity_level", .int event.dataSensitivityLevel), ("owner", .string event.owner),
      ("user_id", .int event.userId), ("device_id", .string event.deviceId)]

/-- The condition on the event id of a row. -/
def ofEventId (eventId : Int) : GenericValues :=
  .put .empty "event_id" (.string (toString eventId))

/-- The condition on the event ids of several rows. -/
def ofEventIds (eventIds : List Int) : GenericValues :=
  .put .empty ("event_id" ++ "_IN") (.string (String.intercalate "," (eventIds.map toString)))

/-- The condition on the event ids and the dates; an empty time leaves its side open. -/
def ofEventIdsAndDate (eventIds : List Int) (beginTime endTime : String) : GenericValues :=
  let conditions := ofEventIds eventIds
  let conditions :=
    if beginTime ≠ "" then conditions.put ("date" ++ "_GE") (.string beginTime) else conditions
  if endTime ≠ "" then conditions.put ("date" ++ "_LT") (.string endTime) else conditions

/-- The characters of an owner that may stand in a pattern. -/
def filterSpecialChars (input : String) : String :=
  String.ofList (input.toList.filter fun character =>
    character.isAlphanum || character = '_' || character = '%')

/-- The condition on the owner of a row. -/
def ofOwner (owner : String) : GenericValues :=
  .put .empty ("owner" ++ "_LIKE") (.string ("%" ++ filterSpecialChars owner ++ "%"))

section Operations

variable (engine : Sql.Engine schema) (store : Sql.Store)

/-- Add the row of an event. -/
def insertEvent (event : SecEvent) : Code × Sql.Store :=
  let inserted := SgSqliteHelper.insert engine store (setValuesBucket event)
  (if inserted.1 ≠ Code.success then Code.failed else Code.success, inserted.2)

/-- A count without an answer is zero. -/
def countEventByEventId (eventId : Int) : Int × Sql.Store :=
  let counted := SgSqliteHelper.count engine store (ofEventId eventId)
  ((counted.1.map Int.ofNat).getD 0, counted.2)

/-- Delete the oldest rows of an event id. -/
def deleteOldEventByEventId (eventId count : Int) : Code × Sql.Store :=
  if count ≤ 0 ∨ eventId < 0 then (Code.badParam, store)
  -- The count has to fit into the `int` of the options.
  else if int32Max < count then (Code.badParam, store)
  else
    let found := SgSqliteHelper.query engine store (ofEventId eventId)
      { orderBy := some { column := "date" }, limit := count, columns := ["id"] }
    if found.1 ≠ Code.success ∨ found.2.1 = [] then (found.1, found.2.2)
    else
      let primaryKeys := found.2.1.map fun row => toString (row.getInt64 "id")
      SgSqliteHelper.delete engine found.2.2
        (.put .empty ("id" ++ "_IN") (.string (String.intercalate "," primaryKeys)))

/-- An event of the answer; the initialiser leaves out the version. -/
def readEvent (row : GenericValues) : SecEvent :=
  let userId := row.getInt64 "user_id"
  { eventId := row.getInt64 "event_id"
    date := row.getString "date"
    content := row.getString "content"
    userId := if int32Min ≤ userId ∧ userId ≤ int32Max then userId else -1
    deviceId := row.getString "device_id" }

/-- Query rows and read their events. -/
def queryEventBase (conditions : GenericValues) (options : QueryOptions) :
    Code × List SecEvent × Sql.Store :=
  let found := SgSqliteHelper.query engine store conditions
    { options with
      columns := ["event_id", "version", "date", "content", "user_id", "device_id"] }
  if found.1 ≠ Code.success then (found.1, [], found.2.2)
  else (Code.success, found.2.1.map readEvent, found.2.2)

/-- The first form of `QueryEventByEventId`, for one id. -/
def queryEventByEventId (eventId : Int) : Code × List SecEvent × Sql.Store :=
  queryEventBase engine store (ofEventId eventId) {}

/-- The second form of `QueryEventByEventId`, for several ids. -/
def queryEventByEventIds (eventIds : List Int) : Code × List SecEvent × Sql.Store :=
  if eventIds = [] then (Code.badParam, [], store)
  else queryEventBase engine store (ofEventIds eventIds) {}

/-- The events of some ids between two times. -/
def queryEventByEventIdAndDate (eventIds : List Int) (beginTime endTime : String) :
    Code × List SecEvent × Sql.Store :=
  if eventIds = [] then (Code.badParam, [], store)
  else queryEventBase engine store (ofEventIdsAndDate eventIds beginTime endTime) {}

/-- The events whose owner contains a text. -/
def queryEventByOwner (owner : String) : Code × List SecEvent × Sql.Store :=
  queryEventBase engine store (ofOwner owner) {}

/-- The first form of `QueryRecentEventByEventId`, which leaves the event of its caller as it is
unless there is one to return. -/
def queryRecentEventByEventId (eventId : Int) (event : SecEvent) : Code × SecEvent × Sql.Store :=
  let found := queryEventBase engine store (ofEventId eventId)
    { orderBy := some { column := "id", descending := true }, limit := 1 }
  match found.2.1 with
  | [] => (Code.failed, event, found.2.2)
  | recent :: _ =>
      if found.1 = Code.success then (Code.success, recent, found.2.2)
      else (Code.failed, event, found.2.2)

/-- The second form of `QueryRecentEventByEventId`, for several ids. -/
def queryRecentEventByEventIds (eventIds : List Int) : Code × List SecEvent × Sql.Store :=
  if eventIds = [] then (Code.failed, [], store)
  else
    let found := queryEventBase engine store (ofEventIds eventIds)
      { orderBy := some { column := "date", descending := true }, limit := 1 }
    if found.1 ≠ Code.success then (found.1, [], found.2.2) else found

/-- All events. -/
def queryAllEvent : Code × List SecEvent × Sql.Store := queryEventBase engine store .empty {}

/-- The events of a type. -/
def queryEventByEventType (eventType : Int) : Code × List SecEvent × Sql.Store :=
  queryEventBase engine store (.put .empty "event_type" (.string (toString eventType))) {}

/-- The events of a level. -/
def queryEventByLevel (level : Int) : Code × List SecEvent × Sql.Store :=
  queryEventBase engine store (.put .empty "data_sensitivity_level" (.string (toString level))) {}

/-- A count without an answer is zero. -/
def countAllEvent : Int × Sql.Store :=
  let counted := SgSqliteHelper.count engine store .empty
  ((counted.1.map Int.ofNat).getD 0, counted.2)

/-- Delete the rows of an event id. -/
def deleteAllEventByEventId (eventId : Int) : Code × Sql.Store :=
  if eventId < 0 then (Code.badParam, store)
  else SgSqliteHelper.delete engine store (ofEventId eventId)

end Operations

/-- The columns of the row in which an event is kept. -/
def columns (event : SecEvent) : List (String × Sql.Value) :=
  [("event_id", .integer event.eventId), ("version", .text event.version),
    ("date", .text event.date), ("content", .text event.content),
    ("event_type", .integer event.eventType),
    ("data_sensitivity_level", .integer event.dataSensitivityLevel), ("owner", .text event.owner),
    ("user_id", .integer event.userId), ("device_id", .text event.deviceId)]

/-- A row keeps an event. -/
def Keeps (row : Sql.Row) (event : SecEvent) : Prop :=
  ∀ cell ∈ columns event, row.value schema cell.1 = cell.2

variable {engine : Sql.Engine schema} {store : Sql.Store}

theorem stored_setValuesBucket (event : SecEvent) :
    ∀ cell ∈ columns event,
      (schema.affinity cell.1).convert
        (Statement.stored ((setValuesBucket event).get cell.1)) = cell.2 := by
  simp [columns, setValuesBucket, GenericValues.putAll, GenericValues.get, GenericValues.get?_put,
    Statement.stored, Sql.Schema.affinity, schema, List.lookup_cons]

theorem exists_cell (event : SecEvent) {column : String × Sql.Affinity}
    (mem : column ∈ schema.columns) :
    ∃ cell ∈ columns event, cell.1 = column.1 ∧ cell.2 ≠ .null := by
  have names : schema.columns.map Prod.fst = (columns event).map Prod.fst := rfl
  have named : column.1 ∈ (columns event).map Prod.fst := names ▸ List.mem_map_of_mem mem
  obtain ⟨cell, inside, same⟩ := List.mem_map.mp named
  have valued : ∀ cell ∈ columns event, cell.2 ≠ .null := by simp [columns]
  exact ⟨cell, inside, same, valued cell inside⟩

theorem version_mem_getAllKeys (event : SecEvent) :
    "version" ∈ (setValuesBucket event).getAllKeys := by
  simp [GenericValues.getAllKeys, SortedMap.mem_keys_iff, SortedMap.contains, setValuesBucket,
    GenericValues.putAll, GenericValues.get?_put]

/-- An insertion that succeeds adds a row that keeps the event. -/
theorem insertEvent_of_works (works : engine.failure store.executed = none) (event : SecEvent) :
    ∃ row : Sql.Row, Keeps row event ∧ row.id = store.table.nextId ∧
      insertEvent engine store event =
        (Code.success,
          { table := store.table.append row.cells, executed := store.executed + 1 }) := by
  have stored := stored_setValuesBucket event
  refine ⟨{ id := store.table.nextId
            cells := fun column => (schema.affinity column).convert
              (Statement.stored ((setValuesBucket event).get column)) }, ?_, rfl, ?_⟩
  · intro cell mem
    have named : ∀ cell ∈ columns event, cell.1 ≠ schema.key := by simp [columns, schema]
    rw [Sql.Row.value, if_neg (named cell mem)]
    exact stored cell mem
  · have complete : ∀ column ∈ schema.columns, (schema.affinity column.1).convert
        (Statement.stored ((setValuesBucket event).get column.1)) ≠ .null := by
      intro column mem
      obtain ⟨cell, inside, same, valued⟩ := exists_cell event mem
      rw [← same, stored cell inside]
      exact valued
    have filled : (setValuesBucket event).getAllKeys ≠ [] := by
      intro empty
      exact absurd (version_mem_getAllKeys event) (by simp [empty])
    rw [insertEvent, SgSqliteHelper.insert_of_works works complete filled]
    rfl

theorem insertEvent_of_reliable (reliable : engine.Reliable) (event : SecEvent) :
    ∃ row : Sql.Row, Keeps row event ∧ row.id = store.table.nextId ∧
      insertEvent engine store event =
        (Code.success,
          { table := store.table.append row.cells, executed := store.executed + 1 }) :=
  insertEvent_of_works (reliable store.executed) event

/-- An insertion that fails leaves the table as it is. -/
theorem insertEvent_of_fails (fails : (engine.failure store.executed).isSome = true)
    (event : SecEvent) :
    insertEvent engine store event =
      (Code.failed, { store with executed := store.executed + 1 }) := by
  have filled : (setValuesBucket event).getAllKeys ≠ [] := by
    intro empty
    exact absurd (version_mem_getAllKeys event) (by simp [empty])
  rw [insertEvent, SgSqliteHelper.insert, if_neg filled, Sql.Engine.insert_of_fails fails]
  rfl

/-- A row keeps an event of an id. -/
def hasEventId (eventId : Int) (row : Sql.Row) : Bool :=
  row.value schema "event_id" = .integer eventId

/-- The order of the dates of two rows. -/
def DateLe (first second : Sql.Row) : Prop :=
  (first.value schema "date").le (second.value schema "date")

theorem matching_ofEventId (eventId : Int) :
    Sql.matching schema (SgSqliteHelper.prepareBoundStateStmt (ofEventId eventId))
      (SgSqliteHelper.buildWhereClause (ofEventId eventId)) = hasEventId eventId := by
  funext row
  rw [Bool.eq_iff_iff, hasEventId, decide_eq_true_iff]
  exact SgSqliteHelper.matching_eq row (by decide) (by decide) rfl eventId

theorem countEventByEventId_of_reliable (reliable : engine.Reliable) (eventId : Int) :
    countEventByEventId engine store eventId =
      (↑(store.table.rows.countP (hasEventId eventId)),
        { store with executed := store.executed + 1 }) := by
  rw [countEventByEventId, SgSqliteHelper.count, Sql.Engine.count_of_reliable reliable,
    matching_ofEventId]
  rfl

theorem getInt64_executeRowData (row : Sql.Row) :
    (SgSqliteHelper.executeRowData schema ["id"] row).getInt64 "id" = row.id := by
  simp [SgSqliteHelper.executeRowData, Sql.Row.value, schema, Statement.getValue,
    GenericValues.getInt64, GenericValues.get?_put, VariantValue.getInt64]

/-- The table without the rows of some numbers. -/
def without (table : Sql.Table) (ids : List Int) : Sql.Table :=
  table.restrict fun row => row.id ∉ ids

/-- Deleting by a list of row numbers. -/
theorem delete_ids_of_works (works : engine.failure store.executed = none) (ids : List Int) :
    SgSqliteHelper.delete engine store
        (.put .empty ("id" ++ "_IN") (.string (String.intercalate "," (ids.map toString)))) =
      (Code.success,
        { table := without store.table ids, executed := store.executed + 1 }) := by
  rw [SgSqliteHelper.delete, Sql.Engine.delete_of_works works]
  have removed : (store.table.restrict fun row => !Sql.matching schema
      (SgSqliteHelper.prepareBoundStateStmt
        (.put .empty ("id" ++ "_IN") (.string (String.intercalate "," (ids.map toString)))))
      (SgSqliteHelper.buildWhereClause
        (.put .empty ("id" ++ "_IN") (.string (String.intercalate "," (ids.map toString)))))
      row) = without store.table ids := by
    refine congrArg store.table.restrict (funext fun row => ?_)
    have numeric : schema.affinity "id" = .integer := rfl
    have selects := SgSqliteHelper.matching_isIn row numeric ids
    rw [Bool.eq_iff_iff, Bool.not_eq_true', ← Bool.not_eq_true, selects, decide_eq_true_iff]
    simp [Sql.Row.value, schema]
  rw [removed]
  rfl

variable (store) in
theorem delete_ids (reliable : engine.Reliable) (ids : List Int) :
    (SgSqliteHelper.delete engine store
      (.put .empty ("id" ++ "_IN")
        (.string (String.intercalate "," (ids.map toString))))).2.table =
      without store.table ids := by
  rw [delete_ids_of_works (reliable store.executed)]

/-- The rows that eviction selects. -/
def oldestRows (engine : Sql.Engine schema) (store : Sql.Store) (eventId : Int) (count : Nat) :
    List Sql.Row :=
  (engine.select store (SgSqliteHelper.prepareBoundStateStmt (ofEventId eventId))
    { conditions := SgSqliteHelper.buildWhereClause (ofEventId eventId)
      order := some { column := "date" }
      limit := some count }).1

/-- Eviction removes the oldest rows of the event id. -/
theorem deleteOldEventByEventId_table (reliable : engine.Reliable) {eventId count : Int}
    (known : 0 ≤ eventId) (positive : 0 < count) (small : count ≤ int32Max) :
    (deleteOldEventByEventId engine store eventId count).2.table =
      without store.table ((oldestRows engine store eventId count.toNat).map Sql.Row.id) := by
  have queried : SgSqliteHelper.query engine store (ofEventId eventId)
      { orderBy := some { column := "date" }, limit := count, columns := ["id"] } =
      (Code.success,
        (oldestRows engine store eventId count.toNat).map
          (SgSqliteHelper.executeRowData schema ["id"]),
        { store with executed := store.executed + 1 }) := by
    simp only [SgSqliteHelper.query, if_pos positive]
    rfl
  rw [deleteOldEventByEventId, if_neg (by omega), if_neg (by omega), queried]
  by_cases empty : oldestRows engine store eventId count.toNat = []
  · simp [empty, without, Sql.Table.restrict_of_forall]
  · simp only [ne_eq, not_true_eq_false, List.map_eq_nil_iff, empty, or_self, if_false,
      List.map_map, Function.comp_def, getInt64_executeRowData]
    have deleted := delete_ids { store with executed := store.executed + 1 } reliable
      ((oldestRows engine store eventId count.toNat).map Sql.Row.id)
    rw [List.map_map] at deleted
    exact deleted

theorem oldestRows_split (reliable : engine.Reliable) (eventId : Int) (count : Nat) :
    ∃ rest,
      (oldestRows engine store eventId count ++ rest).Perm
        (store.table.rows.filter (hasEventId eventId)) ∧
      ∀ first ∈ oldestRows engine store eventId count, ∀ second ∈ rest, DateLe first second := by
  have first := Sql.Engine.select_first store
    (SgSqliteHelper.prepareBoundStateStmt (ofEventId eventId)) reliable
    (SgSqliteHelper.buildWhereClause (ofEventId eventId)) { column := "date" } count
  rw [matching_ofEventId] at first
  exact first

theorem length_oldestRows (reliable : engine.Reliable) (eventId : Int) (count : Nat) :
    (oldestRows engine store eventId count).length =
      min count (store.table.rows.countP (hasEventId eventId)) := by
  rw [oldestRows, Sql.Engine.length_select reliable, matching_ofEventId]

end DatabaseHelper

end SecurityGuard
