import SecurityGuard.Config.EventConfig
import SecurityGuard.Foundation.Execution
import SecurityGuard.Foundation.Retention
import SecurityGuard.Store.Eviction
import SecurityGuard.Store.Scan
import SecurityGuard.Store.Selection

/-!
# The table as a log of events

The service and the models insert, delete and query events one call after the other, while the
configuration of the events is updated and the service restarts.  The table is then a log that
retains the newest events: every call does to it what the quotas of the configuration in force
ask for.
-/

namespace SecurityGuard

namespace DatabaseManager

variable (engine : Sql.Engine DatabaseHelper.schema) (config : ConfigData) (store : Sql.Store)

/-- Delete the oldest rows of an event id. -/
def deleteOldEventByEventId (eventId count : Int) : Code × Sql.Store :=
  if config.getTableFromEventId eventId = riskTable then
    DatabaseHelper.deleteOldEventByEventId engine store eventId count
  else (notSupport, store)

/-- Delete the rows of an event id. -/
def deleteAllEventByEventId (eventId : Int) : Code × Sql.Store :=
  if config.getTableFromEventId eventId = riskTable then
    DatabaseHelper.deleteAllEventByEventId engine store eventId
  else (notSupport, store)

end DatabaseManager

/-- A call that reads or changes the table, or the configuration of the events. -/
inductive StoreCall where
  | insertEvent (source : Nat) (events : List SecEvent)
  | deleteOldEventByEventId (eventId count : Int)
  | deleteAllEventByEventId (eventId : Int)
  | query (conditions : GenericValues) (options : QueryOptions)
  | count (conditions : GenericValues)
  | update (stream : Option String) (copied : Bool)
  | restart (stream : Option String)

/-- The configuration in force and the table. -/
structure StoreSystem where
  config : ConfigData := {}
  store : Sql.Store := {}

namespace StoreSystem

open DatabaseHelper

variable (parseJson : String → Option Json) (engine : Sql.Engine schema)

/-- The configuration after a call.  A service that restarts parses it anew; the groups of events
play no part here. -/
def configAfter (config : ConfigData) : StoreCall → ConfigData
  | .update stream copied => (config.update parseJson stream copied).2
  | .restart stream => (({} : ConfigData).parse parseJson stream).2
  | _ => config

/-- The table after a call. -/
def storeAfter (config : ConfigData) (store : Sql.Store) : StoreCall → Sql.Store
  | .insertEvent source events => (DatabaseManager.insertEvent engine config store source events).2
  | .deleteOldEventByEventId eventId count =>
      (DatabaseManager.deleteOldEventByEventId engine config store eventId count).2
  | .deleteAllEventByEventId eventId =>
      (DatabaseManager.deleteAllEventByEventId engine config store eventId).2
  | .query conditions options => (queryEventBase engine store conditions options).2.2
  | .count conditions => (SgSqliteHelper.count engine store conditions).2
  | .update _ _ | .restart _ => store

/-- Every call is possible at any time. -/
def next : Transition StoreSystem StoreCall := fun system call =>
  some { config := configAfter parseJson system.config call
         store := storeAfter engine system.config system.store call }

end StoreSystem

namespace EventLog

open DatabaseHelper DatabaseManager

/-- An operation of a log of events by their ids. -/
abbrev Operation := Retention.Operation SecEvent Int

/-- The first event is not dated after the second. -/
def NoNewer (first second : SecEvent) : Prop := first.date ≤ second.date

/-- What storing an event does to the log, if the event is to be stored; the events of a negative
id are never evicted. -/
def operation? (config : ConfigData) (source : Nat) (event : SecEvent) : Option Operation :=
  (config.getEventConfig event.eventId).bind fun cfg =>
    if cfg.source = source ∧ config.getTableFromEventId event.eventId = riskTable then
      some (.append event (if event.eventId < 0 then none else some cfg.storageRomNums))
    else none

/-- What a call does to the log. -/
def operations (config : ConfigData) : StoreCall → List Operation
  | .insertEvent source events => events.filterMap (operation? config source)
  | .deleteOldEventByEventId eventId count =>
      if config.getTableFromEventId eventId = riskTable ∧ 0 < count ∧ 0 ≤ eventId ∧
          count ≤ int32Max then [.drop eventId count.toNat]
      else []
  | .deleteAllEventByEventId eventId =>
      if config.getTableFromEventId eventId = riskTable ∧ 0 ≤ eventId then [.clear eventId] else []
  | _ => []

/-- What the calls of a run do to the log, each under the configuration in force. -/
def history (parseJson : String → Option Json) : ConfigData → List StoreCall → List Operation
  | _, [] => []
  | config, call :: calls =>
      operations config call ++ history parseJson (StoreSystem.configAfter parseJson config call)
        calls

/-- The integer of a value. -/
def integerOf : Sql.Value → Int
  | .integer value => value
  | _ => 0

/-- The text of a value. -/
def textOf : Sql.Value → String
  | .text value => value
  | _ => ""

/-- The event that a row keeps. -/
def eventOf (row : Sql.Row) : SecEvent where
  eventId := integerOf (row.value schema "event_id")
  version := textOf (row.value schema "version")
  date := textOf (row.value schema "date")
  content := textOf (row.value schema "content")
  eventType := integerOf (row.value schema "event_type")
  dataSensitivityLevel := integerOf (row.value schema "data_sensitivity_level")
  owner := textOf (row.value schema "owner")
  userId := integerOf (row.value schema "user_id")
  deviceId := textOf (row.value schema "device_id")

/-- The events in a table. -/
def events (table : Sql.Table) : Multiset SecEvent := ↑(table.rows.map eventOf)

/-- Every row keeps an event. -/
def Kept (table : Sql.Table) : Prop := ∀ row ∈ table.rows, Keeps row (eventOf row)

theorem eventOf_of_keeps {row : Sql.Row} {event : SecEvent} (keeps : Keeps row event) :
    eventOf row = event := by
  have cells := fun cell mem => keeps cell mem
  simp only [columns, List.forall_mem_cons] at cells
  obtain ⟨eventId, version, date, content, eventType, level, owner, userId, deviceId, -⟩ := cells
  simp [eventOf, eventId, version, date, content, eventType, level, owner, userId, deviceId,
    integerOf, textOf]

section Rows

variable {table : Sql.Table} {row : Sql.Row} {eventId : Int}

theorem hasEventId_iff (keeps : Keeps row (eventOf row)) :
    hasEventId eventId row = true ↔ (eventOf row).eventId = eventId := by
  have cell : row.value schema "event_id" = .integer (eventOf row).eventId :=
    keeps ("event_id", _) (by simp [columns])
  rw [hasEventId, cell, decide_eq_true_iff]
  exact ⟨Sql.Value.integer.inj, congrArg _⟩

theorem noNewer_of_dateLe {first second : Sql.Row} (keeps : Keeps first (eventOf first))
    (keeps' : Keeps second (eventOf second)) (before : DateLe first second) :
    NoNewer (eventOf first) (eventOf second) := by
  have date : first.value schema "date" = .text (eventOf first).date :=
    keeps ("date", _) (by simp [columns])
  have date' : second.value schema "date" = .text (eventOf second).date :=
    keeps' ("date", _) (by simp [columns])
  rw [DateLe, date, date'] at before
  rw [NoNewer]
  exact of_decide_eq_true before

theorem Kept.restrict (kept : Kept table) (stays : Sql.Row → Bool) : Kept (table.restrict stays) :=
  fun row mem => kept row (Sql.Table.mem_restrict table |>.mp mem).1

theorem size_events (kept : Kept table) (eventId : Int) :
    Retention.size SecEvent.eventId eventId (events table) =
      table.rows.countP (hasEventId eventId) := by
  rw [Retention.size, events, Multiset.coe_countP, List.countP_map]
  refine List.countP_congr fun row mem => ?_
  rw [hasEventId_iff (kept row mem)]
  exact decide_eq_true_iff

/-- Removing some of the rows removes their events. -/
theorem events_without {evicted rest : List Sql.Row}
    (split : (evicted ++ rest).Perm (table.rows.filter (hasEventId eventId))) :
    events table = ↑(evicted.map eventOf) + events (without table (evicted.map Sql.Row.id)) := by
  have distinct : ((evicted ++ rest).map Sql.Row.id).Nodup :=
    (split.map Sql.Row.id).nodup_iff.mpr
      (table.distinct.sublist (List.filter_sublist.map Sql.Row.id))
  have present {row : Sql.Row} (mem : row ∈ evicted) : row ∈ table.rows :=
    (List.mem_filter.mp (split.mem_iff.mp (List.mem_append_left rest mem))).1
  have gone : (table.rows.filter fun row => !decide (row.id ∉ evicted.map Sql.Row.id)).Perm
      evicted := by
    refine (List.perm_ext_iff_of_nodup (table.distinct.of_map.filter _)
      (distinct.of_map.sublist (List.sublist_append_left _ _))).mpr fun row => ?_
    rw [List.mem_filter, Bool.not_eq_true', decide_eq_false_iff_not, not_not]
    constructor
    · rintro ⟨mem, numbered⟩
      obtain ⟨other, out, same⟩ := List.mem_map.mp numbered
      exact Sql.Table.eq_of_id (present out) mem same ▸ out
    · exact fun mem => ⟨present mem, List.mem_map_of_mem mem⟩
  have parts := (List.filter_append_perm (fun row => decide (row.id ∉ evicted.map Sql.Row.id))
    table.rows).symm.trans ((List.Perm.append_left _ gone).trans List.perm_append_comm)
  rw [events, events, without, Sql.Table.rows_restrict, Multiset.coe_add, ← List.map_append]
  exact Multiset.coe_eq_coe.mpr (parts.map eventOf)

end Rows

section Steps

variable {engine : Sql.Engine schema} {store : Sql.Store} {eventId : Int}

/-- The oldest rows of an id go, and the rows of other ids stay. -/
theorem drops_without {table : Sql.Table} {evicted rest : List Sql.Row} {count : ℕ}
    (kept : Kept table)
    (split : (evicted ++ rest).Perm (table.rows.filter (hasEventId eventId)))
    (oldest : ∀ first ∈ evicted, ∀ second ∈ rest, DateLe first second)
    (number : evicted.length = min count (table.rows.countP (hasEventId eventId))) :
    Retention.Drops SecEvent.eventId NoNewer eventId count (events table)
      (events (without table (evicted.map Sql.Row.id))) ↑(evicted.map eventOf) := by
  have present {row : Sql.Row} (mem : row ∈ evicted ++ rest) :
      row ∈ table.rows ∧ hasEventId eventId row = true :=
    List.mem_filter.mp (split.mem_iff.mp mem)
  refine ⟨events_without split, ?_, ?_, ?_⟩
  · intro event mem
    obtain ⟨row, out, rfl⟩ := List.mem_map.mp (Multiset.mem_coe.mp mem)
    have own := present (List.mem_append_left rest out)
    exact (hasEventId_iff (kept row own.1)).mp own.2
  · rw [Multiset.coe_card, List.length_map, size_events kept, number]
  · intro gone mem stays mem' own
    obtain ⟨first, out, rfl⟩ := List.mem_map.mp (Multiset.mem_coe.mp mem)
    obtain ⟨second, left, rfl⟩ := List.mem_map.mp (Multiset.mem_coe.mp mem')
    obtain ⟨inside, outside⟩ := (Sql.Table.mem_restrict table).mp left
    have named : hasEventId eventId second = true := (hasEventId_iff (kept second inside)).mpr own
    have part := split.mem_iff.mpr (List.mem_filter.mpr ⟨inside, named⟩)
    have stays : second ∈ rest := by
      refine (List.mem_append.mp part).resolve_left fun evicted => ?_
      exact of_decide_eq_true outside (List.mem_map_of_mem evicted)
    exact noNewer_of_dateLe (kept first (present (List.mem_append_left rest out)).1)
      (kept second inside) (oldest first out second stays)

theorem deleteOldEventByEventId_drops (reliable : engine.Reliable) (kept : Kept store.table)
    {count : Int} (known : 0 ≤ eventId) (positive : 0 < count) (small : count ≤ int32Max) :
    let removed := (DatabaseHelper.deleteOldEventByEventId engine store eventId count).2.table
    (∃ dropped, Retention.Drops SecEvent.eventId NoNewer eventId count.toNat (events store.table)
      (events removed) dropped) ∧ Kept removed := by
  obtain ⟨evicted, rest, split, oldest, removed, number⟩ :=
    deleteOldEventByEventId_splits reliable store eventId positive
  dsimp only
  rw [removed]
  exact ⟨⟨_, drops_without kept split oldest (number known small)⟩, kept.restrict _⟩

theorem deleteOldEventByEventId_of_refused {count : Int}
    (refused : ¬(0 < count ∧ 0 ≤ eventId ∧ count ≤ int32Max)) :
    (DatabaseHelper.deleteOldEventByEventId engine store eventId count).2 = store := by
  rw [DatabaseHelper.deleteOldEventByEventId]
  split_ifs with invalid large
  · rfl
  · rfl
  · exact absurd ⟨by omega, by omega, by omega⟩ refused

theorem deleteAllEventByEventId_drops (reliable : engine.Reliable) (kept : Kept store.table)
    (known : 0 ≤ eventId) :
    let removed := (DatabaseHelper.deleteAllEventByEventId engine store eventId).2.table
    (∃ dropped, Retention.Drops SecEvent.eventId NoNewer eventId
      (Retention.size SecEvent.eventId eventId (events store.table)) (events store.table)
      (events removed) dropped) ∧ Kept removed := by
  have removed : (DatabaseHelper.deleteAllEventByEventId engine store eventId).2.table =
      without store.table
        ((store.table.rows.filter (hasEventId eventId)).map Sql.Row.id) := by
    rw [DatabaseHelper.deleteAllEventByEventId, if_neg (not_lt.mpr known), SgSqliteHelper.delete,
      Sql.Engine.delete_of_works (reliable store.executed), matching_ofEventId]
    refine Sql.Table.ext (List.filter_congr fun row mem => ?_) rfl
    rw [Bool.eq_iff_iff, Bool.not_eq_true', decide_eq_true_iff, List.mem_map]
    constructor
    · rintro other ⟨same, mem', numbered⟩
      obtain ⟨inside, named⟩ := List.mem_filter.mp mem'
      obtain rfl := Sql.Table.eq_of_id inside mem numbered
      exact absurd (other.symm.trans named) Bool.false_ne_true
    · intro absent
      rw [← Bool.not_eq_true]
      exact fun named => absent ⟨row, List.mem_filter.mpr ⟨mem, named⟩, rfl⟩
  dsimp only
  rw [removed]
  refine ⟨⟨_, drops_without kept ((List.append_nil _).symm ▸ List.Perm.refl _)
    (fun _ _ _ mem => absurd mem List.not_mem_nil) ?_⟩, kept.restrict _⟩
  rw [size_events kept, min_self, List.countP_eq_length_filter]

theorem events_append (table : Sql.Table) (cells : String → Sql.Value) :
    events (table.append cells) = eventOf { id := table.nextId, cells } ::ₘ events table := by
  rw [events, Sql.Table.append, List.map_append, ← Multiset.coe_add, ← Multiset.singleton_add,
    add_comm]
  rfl

/-- What makes room for an event drops as many of its id as its quota demands. -/
theorem drops_for (reliable : engine.Reliable) (kept : Kept store.table) (quota : ℕ)
    (few : 0 ≤ eventId → store.table.rows.countP (hasEventId eventId) ≤ dbMaxValue) :
    let counted := countEventByEventId engine store eventId
    let emptied :=
      if quota ≤ counted.1 then
        (DatabaseHelper.deleteOldEventByEventId engine counted.2 eventId
          (counted.1 + 1 - quota)).2
      else counted.2
    (∃ dropped, Retention.Drops SecEvent.eventId NoNewer eventId
      (Retention.demand (if eventId < 0 then none else some quota)
        (Retention.size SecEvent.eventId eventId (events store.table)))
      (events store.table) (events emptied.table) dropped) ∧ Kept emptied.table := by
  intro counted emptied
  have total : counted.1 = store.table.rows.countP (hasEventId eventId) := by
    simp only [counted, countEventByEventId_of_reliable reliable]
  have same : counted.2.table = store.table := by
    simp only [counted, countEventByEventId_of_reliable reliable]
  rw [size_events kept]
  by_cases carried : quota ≤ counted.1 ∧ 0 ≤ eventId
  · obtain ⟨full, known⟩ := carried
    have count : (counted.1 + 1 - quota).toNat =
        Retention.demand (some quota) (store.table.rows.countP (hasEventId eventId)) := by
      rw [Retention.demand, Option.map_some, Option.getD_some]
      omega
    have small : counted.1 + 1 - quota ≤ int32Max := by
      have bounded := few known
      unfold dbMaxValue at bounded
      unfold int32Max
      omega
    have held : Kept counted.2.table := same ▸ kept
    have removal := deleteOldEventByEventId_drops reliable held known
      (show 0 < counted.1 + 1 - quota by omega) small
    rw [count, same] at removal
    simp only [emptied, if_pos full, if_neg (not_lt.mpr known)]
    exact removal
  · have idle : emptied.table = store.table := by
      by_cases full : quota ≤ counted.1
      · have refused : (DatabaseHelper.deleteOldEventByEventId engine counted.2 eventId
            (counted.1 + 1 - quota)).2 = counted.2 :=
          deleteOldEventByEventId_of_refused fun all => carried ⟨full, all.2.1⟩
        simp only [emptied, if_pos full, refused, same]
      · simp only [emptied, if_neg full, same]
    have none : Retention.demand (if eventId < 0 then none else some quota)
        (store.table.rows.countP (hasEventId eventId)) = 0 := by
      split_ifs with negative
      · rfl
      · rw [Retention.demand, Option.map_some, Option.getD_some]
        omega
    rw [idle, none]
    exact ⟨⟨0, Retention.Drops.nothing _ _ _ _⟩, kept⟩

/-- Storing an event appends it to the log under its quota. -/
theorem storeEvent_step (reliable : engine.Reliable) (kept : Kept store.table) (event : SecEvent)
    (quota : ℕ)
    (few : 0 ≤ event.eventId →
      store.table.rows.countP (hasEventId event.eventId) ≤ dbMaxValue) :
    let after := (storeEvent engine store event quota).2.table
    (∃ dropped, Retention.Step SecEvent.eventId NoNewer
      (.append event (if event.eventId < 0 then none else some quota)) (events store.table)
      (events after) dropped) ∧ Kept after := by
  obtain ⟨⟨dropped, drops⟩, kept'⟩ := drops_for reliable kept quota few
  obtain ⟨row, keeps, number, inserted⟩ := insertEvent_of_reliable reliable event
  dsimp only
  rw [storeEvent, inserted]
  have last : eventOf row = event := eventOf_of_keeps keeps
  obtain ⟨id, cells⟩ := row
  subst number
  refine ⟨⟨dropped, ?_⟩, ?_⟩
  · rw [events_append, last]
    exact .append event _ drops
  · intro row mem
    rcases (Sql.Table.mem_append _).mp mem with old | rfl
    · exact kept' row old
    · exact last.symm ▸ keeps

end Steps

section Batch

variable {engine : Sql.Engine schema} {config : ConfigData} {source : Nat}

/-- The configuration gives no event more room than the parser allows. -/
def Limited (config : ConfigData) : Prop :=
  ∀ eventId cfg, config.getEventConfig eventId = some cfg → cfg.storageRomNums ≤ dbMaxValue

/-- Every row keeps an event, and no id has more rows than the parser allows. -/
structure Sound (table : Sql.Table) : Prop where
  kept : Kept table
  few : ∀ eventId, 0 ≤ eventId → table.rows.countP (hasEventId eventId) ≤ dbMaxValue

theorem operation?_of_stored {event : SecEvent} {cfg : EventCfg}
    (stored : Stored config source event.eventId cfg) :
    operation? config source event =
      some (.append event (if event.eventId < 0 then none else some cfg.storageRomNums)) := by
  rw [operation?, stored.found, Option.bind_some, if_pos ⟨stored.reported, stored.table⟩]

theorem operation?_of_not_stored {event : SecEvent}
    (never : ∀ cfg, ¬Stored config source event.eventId cfg) :
    operation? config source event = none := by
  cases found : config.getEventConfig event.eventId with
  | none => rw [operation?, found, Option.bind_none]
  | some cfg =>
      rw [operation?, found, Option.bind_some, if_neg]
      rintro ⟨reported, table⟩
      exact never cfg ⟨found, reported, table⟩

theorem operation?_eq_some {event : SecEvent} {operation : Operation}
    (taken : operation? config source event = some operation) :
    ∃ cfg, config.getEventConfig event.eventId = some cfg ∧
      operation =
        .append event (if event.eventId < 0 then none else some cfg.storageRomNums) := by
  obtain ⟨cfg, found, taken⟩ := Option.bind_eq_some_iff.mp taken
  obtain ⟨-, taken⟩ := Option.ite_none_right_eq_some.mp taken
  exact ⟨cfg, found, (Option.some.inj taken).symm⟩

/-- The quota of an id bounds every operation on it. -/
theorem within_operations {eventId : Int} {bound : ℕ} (known : 0 ≤ eventId)
    (limited : ∀ cfg, config.getEventConfig eventId = some cfg → cfg.storageRomNums ≤ bound)
    (call : StoreCall) :
    ∀ operation ∈ operations config call, operation.Within SecEvent.eventId eventId bound := by
  intro operation mem
  cases call with
  | insertEvent source events =>
      obtain ⟨event, -, taken⟩ := List.mem_filterMap.mp mem
      obtain ⟨cfg, found, rfl⟩ := operation?_eq_some taken
      intro same
      subst same
      rw [if_neg (not_lt.mpr known)]
      exact ⟨_, limited cfg found, rfl⟩
  | deleteOldEventByEventId other count =>
      rw [operations] at mem
      split_ifs at mem
      · rw [List.mem_singleton.mp mem]
        exact trivial
      · exact absurd mem List.not_mem_nil
  | deleteAllEventByEventId other =>
      rw [operations] at mem
      split_ifs at mem
      · rw [List.mem_singleton.mp mem]
        exact trivial
      · exact absurd mem List.not_mem_nil
  | query | count | update | restart => exact absurd mem List.not_mem_nil

theorem Sound.of_runs {table after : Sql.Table} {operations : List Operation}
    {lost : Multiset SecEvent} (sound : Sound table) (kept : Kept after)
    (runs : Retention.Runs SecEvent.eventId NoNewer operations (events table) (events after) lost)
    (within : ∀ eventId, 0 ≤ eventId →
      ∀ operation ∈ operations, operation.Within SecEvent.eventId eventId dbMaxValue) :
    Sound after := by
  refine ⟨kept, fun eventId known => ?_⟩
  rw [← size_events kept]
  refine runs.size_le (by decide) (within eventId known) ?_
  rw [size_events sound.kept]
  exact sound.few eventId known

theorem runs_foldl_insertNext (reliable : engine.Reliable) (limited : Limited config)
    (list : List SecEvent) (state : Code × Sql.Store) (sound : Sound state.2.table) :
    let after := (list.foldl (insertNext engine config source) state).2.table
    (∃ lost, Retention.Runs SecEvent.eventId NoNewer
      (list.filterMap (operation? config source)) (events state.2.table) (events after) lost) ∧
      Kept after := by
  induction list generalizing state with
  | nil => exact ⟨⟨0, .nil _⟩, sound.kept⟩
  | cons event list ih =>
      rw [List.foldl_cons, List.filterMap_cons]
      rcases insertNext_cases engine config source state event with
        ⟨same, never⟩ | ⟨cfg, stored, turn⟩
      · rw [operation?_of_not_stored never]
        have rest := ih (insertNext engine config source state event) (same ▸ sound)
        rw [same] at rest
        exact rest
      · rw [operation?_of_stored stored]
        obtain ⟨⟨dropped, step⟩, kept⟩ := storeEvent_step reliable sound.kept event
          cfg.storageRomNums (sound.few event.eventId)
        have within : ∀ eventId, 0 ≤ eventId → ∀ operation ∈ [Retention.Operation.append event
            (if event.eventId < 0 then none else some cfg.storageRomNums)],
            operation.Within SecEvent.eventId eventId dbMaxValue := by
          intro eventId known
          have bounded := within_operations known (limited eventId) (.insertEvent source [event])
          rwa [operations, List.filterMap_cons, operation?_of_stored stored] at bounded
        have one := Retention.Runs.cons step (.nil _)
        obtain ⟨⟨lost, rest⟩, kept'⟩ := ih (insertNext engine config source state event) (by
          rw [turn]
          exact sound.of_runs kept one within)
        rw [turn] at rest kept'
        rw [turn]
        exact ⟨⟨_, .cons step rest⟩, kept'⟩

end Batch

end EventLog

end SecurityGuard
