import SecurityGuard.ConfigData

/-!
# The subscription manager

The sessions of `AcquireDataSubscribeManager` and its record of the collectors that run for
them.  Each critical section is a function of its own, so that the sequential operations below
and the interleavings use the same sections.  The collectors and the filter plugin are outside:
`Externals` says what a call answers and how it changes their world.
-/

namespace SecurityGuard

/-- A filter that a client sets on an event. -/
structure EventMuteFilter where
  eventId : Int
  isInclude : Bool
  type : Int
  mutes : SortedSet String
  deriving DecidableEq

/-- The filter as the plugin receives it. -/
structure SecurityCollectorEventMuteFilter where
  eventId : Int
  type : Int
  isInclude : Bool
  mutes : SortedSet String
  isSetMute : Bool
  instanceFlag : String
  deriving DecidableEq

/-- A client with its filters and its events. -/
structure ClientSession where
  pid : Int
  callback : Address
  clientId : String
  eventFilters : SortedMap Int (List EventMuteFilter) := .empty
  subEvents : SortedSet Int := .empty
  eventGroup : String
  deriving DecidableEq

/-- The filter plugin, as it answers and changes the world. -/
structure FilterPlugin (σ : Type) where
  setEventFilter : SecurityCollectorEventMuteFilter → σ → Code × σ
  removeEventFilter : SecurityCollectorEventMuteFilter → σ → Code × σ
  removeSdkAllEventFilter : String → σ → σ

/-- The calls that leave the manager, as they answer and change the world. -/
structure Externals (σ : Type) where
  subscribeCollectors : Int → σ → Code × σ
  subscribeCollectorsBySticky : Int → σ → Code × σ
  unsubscribeCollectors : Int → σ → Code × σ
  scSubscribe : Int → σ → Code × σ
  scUnsubscribe : Int → σ → Code × σ
  eventFilter : Option (FilterPlugin σ)

/-- The state of the manager together with the world outside. -/
structure Manager (σ : Type) where
  sessionsMap : SortedMap String ClientSession := .empty
  reportedStickyEvents : SortedMap String (SortedSet Int) := .empty
  /-- Events subscribed in the collector service. -/
  scSubscribeMap : SortedSet Int := .empty
  /-- Events subscribed in this process. -/
  eventToListenner : SortedSet Int := .empty
  world : σ

/-- `MAX_SESSION_SIZE`. -/
def maxSessionSize : Nat := 16
def maxSessionSizeOneProcess : Nat := 2

/-- Whether a text contains another one. -/
def containsText (pattern text : String) : Bool :=
  text.toList.tails.any fun tail => pattern.toList.isPrefixOf tail

namespace Manager

variable {σ : Type} (config : ConfigData) (env : Externals σ) (manager : Manager σ)

/-- Change the session of a client. -/
def updateSession (clientId : String) (change : ClientSession → ClientSession) : Manager σ :=
  { manager with sessionsMap := manager.sessionsMap.modify clientId change }

/-- Forget the session of a client. -/
def eraseSession (clientId : String) : Manager σ :=
  { manager with sessionsMap := manager.sessionsMap.erase clientId }

def withWorld (world : σ) : Manager σ := { manager with world }

/-- Some session has subscribed the event. -/
def isAnySessionSubscribes (eventId : Int) : Bool :=
  manager.sessionsMap.entries.any fun entry => entry.2.subEvents.contains eventId

/-- For compatibility only `kernelNotSupport` is told apart from other failures. -/
def collectorCode (code : Code) : Code :=
  if code = .kernelNotSupport ∨ code = .success then code else .failed

/-- Subscribe an event of this process. -/
def subscribeScInSg (eventId : Int) (isSticky : Nat) : Code × Manager σ :=
  if manager.eventToListenner.contains eventId then (.success, manager)
  else if isSticky = 0 then
    let answer := env.subscribeCollectors eventId manager.world
    let called := manager.withWorld answer.2
    if answer.1 = .success then
      (.success, { called with eventToListenner := called.eventToListenner.insert eventId () })
    else (collectorCode answer.1, called)
  else
    -- A sticky event is asked for at every subscription, and no listener is kept for it.
    let answer := env.subscribeCollectorsBySticky eventId manager.world
    (collectorCode answer.1, manager.withWorld answer.2)

/-- Subscribe an event of the collector service. -/
def subscribeScInSc (eventId : Int) : Code × Manager σ :=
  if manager.scSubscribeMap.contains eventId then (.success, manager)
  else
    let answer := env.scSubscribe eventId manager.world
    let called := manager.withWorld answer.2
    if answer.1 = .success then
      (.success, { called with scSubscribeMap := called.scSubscribeMap.insert eventId () })
    else (answer.1, called)

/-- Subscribe an event where its configuration says. -/
def subscribeSc (eventId : Int) : Code × Manager σ :=
  match config.getEventConfig eventId with
  | none => (.badParam, manager)
  | some cfg =>
      if cfg.eventType ≠ .subscribeColl then (.success, manager)
      else if cfg.prog = securityGuardProg then manager.subscribeScInSg env eventId cfg.isSticky
      else manager.subscribeScInSc env eventId

/-- Unsubscribe an event where its configuration says. -/
def unSubscribeSc (eventId : Int) : Code × Manager σ :=
  match config.getEventConfig eventId with
  | none => (.badParam, manager)
  | some cfg =>
      if cfg.eventType ≠ .subscribeColl then (.success, manager)
      else if cfg.prog = securityGuardProg then
        -- Sticky events have no listener that could be missing.
        if cfg.isSticky = 0 ∧ !manager.eventToListenner.contains eventId then (.failed, manager)
        else
          let answer := env.unsubscribeCollectors eventId manager.world
          let called := manager.withWorld answer.2
          if answer.1 ≠ .success then (answer.1, called)
          else if cfg.isSticky = 0 then
            (.success, { called with eventToListenner := called.eventToListenner.erase eventId })
          else (.success, called)
      else if !manager.scSubscribeMap.contains eventId then (.failed, manager)
      else
        let answer := env.scUnsubscribe eventId manager.world
        let called := manager.withWorld answer.2
        if answer.1 ≠ .success then (answer.1, called)
        else (.success, { called with scSubscribeMap := called.scSubscribeMap.erase eventId })

/-- Subscribe an event that some session wants. -/
def subscribeScIfNeeded (eventId : Int) : Code × Manager σ :=
  if !manager.isAnySessionSubscribes eventId then (.success, manager)
  else manager.subscribeSc config env eventId

/-- Unsubscribe an event that no session wants. -/
def unSubscribeScIfLast (eventId : Int) : Code × Manager σ :=
  if manager.isAnySessionSubscribes eventId then (.success, manager)
  else manager.unSubscribeSc config env eventId

/-- Unsubscribe every event of a list that no session subscribes; failures are ignored. -/
def unSubscribeAll : List Int → Manager σ → Manager σ
  | [], manager => manager
  | eventId :: rest, manager =>
      unSubscribeAll rest (manager.unSubscribeScIfLast config env eventId).2

/-- The filter as the library takes it. -/
def convertFilter (filter : EventMuteFilter) (clientId : String) :
    SecurityCollectorEventMuteFilter :=
  { eventId := filter.eventId
    type := filter.type
    isInclude := filter.isInclude
    mutes := filter.mutes
    isSetMute := false
    instanceFlag := clientId }

/-- Call the plugin with a filter of a configured event. -/
def callFilter (call : FilterPlugin σ → SecurityCollectorEventMuteFilter → σ → Code × σ)
    (filter : EventMuteFilter) (clientId : String) : Code × Manager σ :=
  match config.getEventConfig filter.eventId, env.eventFilter with
  | none, _ => (.badParam, manager)
  | some _, none => (.nullObject, manager)
  | some _, some plugin =>
      let answer := call plugin (convertFilter filter clientId) manager.world
      (answer.1, manager.withWorld answer.2)

def insertMute (filter : EventMuteFilter) (clientId : String) : Code × Manager σ :=
  manager.callFilter config env FilterPlugin.setEventFilter filter clientId

def removeMute (filter : EventMuteFilter) (clientId : String) : Code × Manager σ :=
  manager.callFilter config env FilterPlugin.removeEventFilter filter clientId

/-- The filters of a session for an event. -/
def filtersOf (session : ClientSession) (eventId : Int) : List EventMuteFilter :=
  (session.eventFilters.get? eventId).getD []

/-- The session of the client has the filter. -/
def isFilterInSession (clientId : String) (filter : EventMuteFilter) : Bool :=
  (manager.sessionsMap.get? clientId).any fun session =>
    (filtersOf session filter.eventId).contains filter

/-- Hand the filters of a new subscription to the plugin, unless they were removed meanwhile. -/
def insertMutes (clientId : String) : List EventMuteFilter → Manager σ → Manager σ
  | [], manager => manager
  | filter :: rest, manager =>
      if manager.isFilterInSession clientId filter then
        insertMutes clientId rest (manager.insertMute config env filter clientId).2
      else insertMutes clientId rest manager

def removeMutes (clientId : String) : List EventMuteFilter → Manager σ → Manager σ
  | [], manager => manager
  | filter :: rest, manager =>
      removeMutes clientId rest (manager.removeMute config env filter clientId).2

/-! ## Critical sections of the operations -/

/-- The first section of `InsertSubscribeRecord` for a client that exists. -/
def enterRecord (eventId : Int) (clientId : String) :
    Decision (Manager σ × List EventMuteFilter) :=
  match manager.sessionsMap.get? clientId with
  | none => .returns .badParam
  | some session =>
      if session.subEvents.contains eventId then .returns .success
      else
        let subscribed := { session with subEvents := session.subEvents.insert eventId () }
        .continues
          ({ manager with sessionsMap := manager.sessionsMap.insert clientId subscribed },
            filtersOf session eventId)

/-- The arguments of the older form of `InsertSubscribeRecord`. -/
structure SubscribeInfo where
  eventId : Int
  eventGroup : String
  callback : Address
  callerPid : Int
  deriving DecidableEq, Repr

/-- The session that the older form creates for an unknown client. -/
def SubscribeInfo.session (info : SubscribeInfo) (clientId : String) : ClientSession :=
  { pid := info.callerPid
    callback := info.callback
    clientId
    eventGroup := info.eventGroup }

/-- The first section of the older form, which creates the session if need be and says so. -/
def enterRecordWith (info : SubscribeInfo) (clientId : String) : Decision (Manager σ × Bool) :=
  -- A client without a session gets one, whatever the limits are.
  let session := (manager.sessionsMap.get? clientId).getD (info.session clientId)
  if session.subEvents.contains info.eventId then .returns .success
  else
    let subscribed := { session with subEvents := session.subEvents.insert info.eventId () }
    .continues
      ({ manager with sessionsMap := manager.sessionsMap.insert clientId subscribed },
        !manager.sessionsMap.contains clientId)

/-- Take a subscription back whose collector could not be started. -/
def rollbackInsert (eventId : Int) (clientId : String) (sessionCreated : Bool) : Manager σ :=
  match manager.sessionsMap.get? clientId with
  | none => manager
  | some session =>
      let reverted := { session with subEvents := session.subEvents.erase eventId }
      if sessionCreated ∧ reverted.subEvents.size = 0 then manager.eraseSession clientId
      else { manager with sessionsMap := manager.sessionsMap.insert clientId reverted }

/-- The first section of `RemoveSubscribeRecordCore`. -/
def leaveRecord (eventId : Int) (clientId : String) : Decision (Manager σ) :=
  match manager.sessionsMap.get? clientId with
  | none => .returns .success
  | some session =>
      if !session.subEvents.contains eventId then .returns .success
      else
        let left := { session with subEvents := session.subEvents.erase eventId }
        .continues { manager with sessionsMap := manager.sessionsMap.insert clientId left }

/-- Enter a subscription again whose collector could not be stopped. -/
def rollbackRemove (eventId : Int) (clientId : String) : Manager σ :=
  manager.updateSession clientId fun session =>
    { session with subEvents := session.subEvents.insert eventId () }

/-- The last section of `RemoveSubscribeRecordCore`. -/
def cleanupRecord (eventId : Int) (clientId : String) (cleanupSession : Bool) : Manager σ :=
  if !cleanupSession then manager
  else
    let cleaned :=
      -- The session may be another one by now, or have events again.
      if (manager.sessionsMap.get? clientId).any fun session => session.subEvents.size = 0 then
        manager.eraseSession clientId
      else manager
    match cleaned.reportedStickyEvents.get? clientId with
    | none => cleaned
    | some reported =>
        let remaining := reported.erase eventId
        { cleaned with
          reportedStickyEvents :=
            if remaining.size = 0 then cleaned.reportedStickyEvents.erase clientId
            else cleaned.reportedStickyEvents.insert clientId remaining }

/-- The section of `DestoryClient`: forget the session and return its events and filters. -/
def leaveClient (clientId : String) :
    Decision (Manager σ × List Int × List EventMuteFilter) :=
  match manager.sessionsMap.get? clientId with
  | none => .returns .badParam
  | some session =>
      let filters := session.eventFilters.entries.flatMap Prod.snd
      .continues (manager.eraseSession clientId, session.subEvents.keys, filters)

/-- The section of `RemoveSubscribeRecordOnRemoteDied`: forget the first session of a callback. -/
def leaveCallback (callback : Address) : Decision (Manager σ × String × List Int) :=
  match manager.sessionsMap.entries.find? fun entry => entry.2.callback = callback with
  | none => .returns .success
  | some (clientId, session) =>
      .continues (manager.eraseSession clientId, clientId, session.subEvents.keys)

/-- Take all filters of a client away. -/
def removeSdkAllEventFilter (clientId : String) : Manager σ :=
  match env.eventFilter with
  | none => manager
  | some plugin =>
      if clientId = "" then manager
      else manager.withWorld (plugin.removeSdkAllEventFilter clientId manager.world)

/-- Subscribe an event for a client. -/
def insertSubscribeRecord (eventId : Int) (clientId : String) : Code × Manager σ :=
  match manager.enterRecord eventId clientId with
  | .returns code => (code, manager)
  | .continues (entered, filters) =>
      let subscribed := entered.subscribeScIfNeeded config env eventId
      if subscribed.1 ≠ .success then
        (subscribed.1, subscribed.2.rollbackInsert eventId clientId false)
      else (.success, subscribed.2.insertMutes config env clientId filters)

def insertSubscribeRecordWith (info : SubscribeInfo) (clientId : String) : Code × Manager σ :=
  match manager.enterRecordWith info clientId with
  | .returns code => (code, manager)
  | .continues (entered, sessionCreated) =>
      let subscribed := entered.subscribeScIfNeeded config env info.eventId
      if subscribed.1 ≠ .success then
        (subscribed.1, subscribed.2.rollbackInsert info.eventId clientId sessionCreated)
      else (.success, subscribed.2)

/-- Both forms of `RemoveSubscribeRecord`; the older one also cleans the session up. -/
def removeSubscribeRecordCore (eventId : Int) (clientId : String) (cleanupSession : Bool) :
    Code × Manager σ :=
  match manager.leaveRecord eventId clientId with
  | .returns code => (code, manager)
  | .continues left =>
      let unsubscribed := left.unSubscribeScIfLast config env eventId
      if unsubscribed.1 ≠ .success then
        (unsubscribed.1, unsubscribed.2.rollbackRemove eventId clientId)
      else (.success, unsubscribed.2.cleanupRecord eventId clientId cleanupSession)

/-- End the session of a client. -/
def destoryClient (clientId : String) : Code × Manager σ :=
  match manager.leaveClient clientId with
  | .returns code => (code, manager)
  | .continues (left, events, filters) =>
      let unsubscribed := unSubscribeAll config env events left
      (.success, removeMutes config env clientId filters unsubscribed)

def removeSubscribeRecordOnRemoteDied (callback : Address) : Manager σ :=
  match manager.leaveCallback callback with
  | .returns _ => manager
  | .continues (left, clientId, events) =>
      unSubscribeAll config env events (left.removeSdkAllEventFilter env clientId)

/-- The group of a client, empty without a session. -/
def getCurrentClientGroup (clientId : String) : String :=
  match manager.sessionsMap.get? clientId with
  | none => ""
  | some session => session.eventGroup

/-- Check the number of sessions of the group and of the process. -/
def isExceedLimited (clientId eventGroup : String) (callerPid : Int) : Code :=
  -- Clients of the library are not limited.
  if containsText "sdk" clientId then .success
  else
    let ofGroup := manager.sessionsMap.entries.filter fun entry =>
      entry.2.eventGroup = eventGroup
    let ofProcess := manager.sessionsMap.entries.filter fun entry => entry.2.pid = callerPid
    if maxSessionSize ≤ ofGroup.length then .clientExceedGlobalLimit
    -- A client that has a session is not refused for those of its process.
    else if (ofProcess.all fun entry => entry.1 ≠ clientId) ∧
        maxSessionSizeOneProcess ≤ ofProcess.length then .clientExceedProcessLimit
    else .success

/-- The section of `CreatClient` that enters the session. -/
def enterClient (eventGroup clientId : String) (callerPid : Int) (callback : Address) :
    Code × Manager σ :=
  if manager.sessionsMap.contains clientId then (.badParam, manager)
  else
    let session : ClientSession := { pid := callerPid, callback, clientId, eventGroup }
    (.success, { manager with sessionsMap := manager.sessionsMap.insert clientId session })

/-- Create a session within the limits. -/
def creatClient (eventGroup clientId : String) (callerPid : Int) (callback : Address) :
    Code × Manager σ :=
  let code := manager.isExceedLimited clientId eventGroup callerPid
  if code ≠ .success then (code, manager)
  else manager.enterClient eventGroup clientId callerPid callback

/-- What stands against another filter. -/
def checkInsertMute (filter : EventMuteFilter) (clientId : String) : Code :=
  match manager.sessionsMap.get? clientId with
  | none => .badParam
  | some session =>
      if (filtersOf session filter.eventId).contains filter then .badParam else .success

/-- Enter a filter in the session of a client, if it still exists. -/
def addFilter (filter : EventMuteFilter) (clientId : String) : Manager σ :=
  manager.updateSession clientId fun session =>
    { session with
      eventFilters := session.eventFilters.insert filter.eventId
        (filtersOf session filter.eventId ++ [filter]) }

/-- Take a filter out of the session. -/
def eraseFilterFromSession (clientId : String) (filter : EventMuteFilter) : Manager σ :=
  manager.updateSession clientId fun session =>
    let remaining := (filtersOf session filter.eventId).erase filter
    { session with
      eventFilters :=
        if remaining = [] then session.eventFilters.erase filter.eventId
        else session.eventFilters.insert filter.eventId remaining }

/-- Whether a session of a client subscribes an event. -/
def subscribes (clientId : String) (eventId : Int) : Bool :=
  (manager.sessionsMap.get? clientId).any fun session => session.subEvents.contains eventId

/-- Add a filter for a client. -/
def insertSubscribeMute (filter : EventMuteFilter) (clientId : String) : Code × Manager σ :=
  let code := manager.checkInsertMute filter clientId
  if code ≠ .success then (code, manager)
  else if !manager.subscribes clientId filter.eventId then
    (.success, manager.addFilter filter clientId)
  else
    let applied := manager.insertMute config env filter clientId
    if applied.1 ≠ .success then applied
    else (.success, applied.2.addFilter filter clientId)

/-- Take a filter of a client away. -/
def removeSubscribeMute (filter : EventMuteFilter) (clientId : String) : Code × Manager σ :=
  if !manager.isFilterInSession clientId filter then (.badParam, manager)
  else if !manager.subscribes clientId filter.eventId then
    (.success, manager.eraseFilterFromSession clientId filter)
  else
    let removed := manager.removeMute config env filter clientId
    if removed.1 ≠ .success then removed
    else (.success, removed.2.eraseFilterFromSession clientId filter)

end Manager

end SecurityGuard
