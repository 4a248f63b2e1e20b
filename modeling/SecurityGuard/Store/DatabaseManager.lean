import SecurityGuard.ConfigData
import SecurityGuard.Store.DatabaseHelper

/-!
# Storing a batch of events

`InsertEvent` stores the events of a batch one by one, each after it made room for it.  The
listeners that it tells through `DbChanged` do not touch the table.
-/

namespace SecurityGuard

/-- The source of the events that the service collects itself. -/
def userSource : Nat := 0

namespace DatabaseManager

open DatabaseHelper

variable (engine : Sql.Engine schema) (config : ConfigData)

/-- Make room for one row of an event, and add it. -/
def storeEvent (store : Sql.Store) (event : SecEvent) (storageRomNums : Nat) :
    Code × Sql.Store :=
  let counted := countEventByEventId engine store event.eventId
  let emptied :=
    if storageRomNums ≤ counted.1 then
      (deleteOldEventByEventId engine counted.2 event.eventId
        (counted.1 + 1 - storageRomNums)).2
    else counted.2
  DatabaseHelper.insertEvent engine emptied event

/-- One turn of the loop of `InsertEvent`, on the code to return and the table. -/
def insertNext (source : Nat) (state : Code × Sql.Store) (event : SecEvent) : Code × Sql.Store :=
  match config.getEventConfig event.eventId with
  | none => (Code.notFound, state.2)
  | some cfg =>
      if cfg.source ≠ source then state
      else if config.getTableFromEventId event.eventId = riskTable then
        storeEvent engine state.2 event cfg.storageRomNums
      else state

/-- Insert events one after the other. -/
def insertEvent (store : Sql.Store) (source : Nat) (events : List SecEvent) : Code × Sql.Store :=
  events.foldl (insertNext engine config source) (Code.success, store)

variable (store : Sql.Store)

/-- The code `NOT_SUPPORT` is the one of a success. -/
def notSupport : Code := 0

/-- The events of an id, if they are in the risk table. -/
def queryEventByEventId (eventId : Int) : Code × List SecEvent × Sql.Store :=
  if config.getTableFromEventId eventId = riskTable then
    DatabaseHelper.queryEventByEventId engine store eventId
  else (notSupport, [], store)

/-- The events of some ids, if the table is the risk table. -/
def queryEventByEventIds (table : String) (eventIds : List Int) :
    Code × List SecEvent × Sql.Store :=
  if table = riskTable then DatabaseHelper.queryEventByEventIds engine store eventIds
  else (notSupport, [], store)

/-- The events of some ids between two times, if the table is the risk table. -/
def queryEventByEventIdAndDate (table : String) (eventIds : List Int)
    (beginTime endTime : String) : Code × List SecEvent × Sql.Store :=
  if table = riskTable then
    DatabaseHelper.queryEventByEventIdAndDate engine store eventIds beginTime endTime
  else (notSupport, [], store)

end DatabaseManager

end SecurityGuard
