import Mathlib.Algebra.Order.Ring.Int
import Mathlib.Data.String.Basic
import SecurityGuard.Define
import SecurityGuard.Foundation.SortedMap

/-!
# Configuration of events and event groups

The maps of `ConfigDataManager` that the services consult.  The parser of the event groups
rejects an empty name, so a configuration carries the proof that no group has one.
-/

namespace SecurityGuard

/-- The kind of collector behind an event; a configuration may hold a number without meaning. -/
inductive EventType where
  | normalColl
  | queryColl
  | startStopColl
  | subscribeColl
  | unlisted (value : Nat)
  deriving DecidableEq, Repr

/-- The type that a number stands for. -/
def EventType.ofNat : Nat → EventType
  | 0 => normalColl
  | 1 => queryColl
  | 2 => startStopColl
  | 3 => subscribeColl
  | value => unlisted value

/-- The configuration of an event. -/
structure EventCfg where
  eventId : Int
  oldEventId : Int := 0
  eventName : String := ""
  version : Nat := 0
  eventType : EventType := .normalColl
  collectOnStart : Nat := 0
  dataSensitivityLevel : Nat := 0
  discardEventWhiteList : Nat := 0
  storageRamNums : Nat := 0
  storageRomNums : Nat := 0
  storageTime : Int := 0
  owner : List String := []
  source : Nat := 0
  dbTable : String := ""
  prog : String := ""
  isBatchUpload : Nat := 0
  isSticky : Nat := 0
  serviceId : String := ""
  deriving DecidableEq, Repr

/-- The program of the collectors that run in the service itself. -/
def securityGuardProg : String := "security_guard"

/-- The table of the events that the service stores. -/
def riskTable : String := "risk_event"

/-- A group of events and the permissions that open it. -/
structure EventGroupCfg where
  eventGroupName : String
  eventList : SortedSet Int
  permissionList : List String
  deriving DecidableEq

/-- The configuration of the service. -/
structure ConfigData where
  eventMap : SortedMap Int EventCfg := .empty
  eventGroupMap : SortedMap String EventGroupCfg := .empty
  eventToTableMap : SortedMap Int String := .empty
  /-- `ParseEventGroupConfig` rejects a group without a name. -/
  named : eventGroupMap.contains "" = false := by first | exact SortedMap.contains_empty "" | decide

namespace ConfigData

variable (config : ConfigData)

/-- The configuration of an event. -/
def getEventConfig (eventId : Int) : Option EventCfg := config.eventMap.get? eventId

/-- All configured events. -/
def getAllEventIds : List Int := config.eventMap.keys

/-- The configuration of a group. -/
def getEventGroupConfig (groupName : String) : Option EventGroupCfg :=
  config.eventGroupMap.get? groupName

/-- The table of an event. -/
def getTableFromEventId (eventId : Int) : String :=
  (config.eventToTableMap.get? eventId).getD ""

@[simp]
theorem getEventGroupConfig_empty : config.getEventGroupConfig "" = none := by
  simpa [getEventGroupConfig, SortedMap.contains] using config.named

end ConfigData

end SecurityGuard
