import SecurityGuard.ConfigData
import SecurityGuard.Event

/-!
# Uploading one event

The checks of `UploadEvent`, and what `UploadEventTask` makes of an event before it goes to the
store and to the subscribers.  The plugins, the clock and the JSON parser are outside.
-/

namespace SecurityGuard

/-- What the code around the pipeline answers at one moment. -/
structure Surroundings where
  config : ConfigData
  userId : Int := -1
  deviceId : String := ""
  getDate : String := ""
  /-- Whether a text is a JSON document. -/
  isJson : String → Bool
  /-- The plugins are absent or change the event. -/
  getFlagsEventNeedToUpload : CollectorEvent → CollectorEvent := id
  wrapperEvent : CollectorEvent → CollectorEvent := id

namespace Surroundings

def maxContentSize : Nat := 10240

variable (outside : Surroundings)

def checkRiskContent (event : CollectorEvent) : Bool :=
  if maxContentSize < event.content.utf8ByteSize ∨ event.content = "" ∧ event.tlvData = [] then
    false
  else if event.content ≠ "" then outside.isJson event.content
  else true

/-- The event that `UploadEventTask` hands on, if it is still configured. -/
def uploadedEvent (event : CollectorEvent) : Option CollectorEvent :=
  (outside.config.getEventConfig event.eventId).map fun cfg =>
    let dated :=
      { event with
        userId := outside.userId
        deviceId := outside.deviceId
        timestamp := if event.timestamp = "" then outside.getDate else event.timestamp
        -- an old event id is changed to the new one
        eventId := cfg.eventId }
    outside.wrapperEvent (outside.getFlagsEventNeedToUpload dated)

end Surroundings

/-- The event as `UploadEventToStore` enters it in `events_`. -/
def CollectorEvent.secEvent (event : CollectorEvent) : SecEvent :=
  { eventId := event.eventId
    version := event.version
    date := event.timestamp
    content := event.content
    userId := event.userId }

end SecurityGuard
