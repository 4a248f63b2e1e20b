import Mathlib.Algebra.Order.Ring.Int
import Mathlib.Data.String.Basic
import SecurityGuard.Define
import SecurityGuard.Foundation.SortedMap

/-!
# Events and queries

The records in which an event travels: as a collector reports it, as queries return it and as
the store keeps it.
-/

namespace SecurityGuard

/-- The value of a field that a collector reports beside the content. -/
inductive TlvValue where
  | unsigned64 (value : Nat)
  | signed64 (value : Int)
  | text (value : String)
  | unsigned32 (value : Nat)
  deriving DecidableEq

/-- A field of a parcel with its type and its length. -/
structure Tlv where
  type : Nat
  length : Nat
  value : TlvValue
  deriving DecidableEq

/-- An event as a collector reports it. -/
structure CollectorEvent where
  eventId : Int
  version : String := ""
  content : String := ""
  extra : String := ""
  timestamp : String := ""
  userId : Int := -1
  deviceId : String := ""
  eventSubscribes : SortedSet String := .empty
  tlvData : List Tlv := []
  deriving DecidableEq

/-- A query for the events of one id; an empty time leaves its side open. -/
structure SecurityEventRuler where
  eventId : Int
  beginTime : String := ""
  endTime : String := ""
  param : String := ""
  deriving DecidableEq

/-- An event as a query returns it. -/
structure SecurityEvent where
  eventId : Int
  version : String := ""
  content : String := ""
  timestamp : String := ""
  userId : Int := -1
  deriving DecidableEq

/-- An event as the store keeps it.  A field that an initialiser leaves out is zero or empty. -/
structure SecEvent where
  eventId : Int := 0
  version : String := ""
  date : String := ""
  content : String := ""
  eventType : Int := 0
  dataSensitivityLevel : Int := 0
  owner : String := ""
  userId : Int := 0
  deviceId : String := ""
  deriving DecidableEq

/-- A call to the callback object of a query. -/
inductive QueryCallback where
  | onQuery (events : List SecurityEvent)
  | onComplete
  | onError (message : String)
  deriving DecidableEq

end SecurityGuard
