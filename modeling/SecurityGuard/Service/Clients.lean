import SecurityGuard.Foundation.Execution
import SecurityGuard.Service.Permission
import SecurityGuard.Subscribe.Manager

/-!
# Clients of the service

The calls of `DataCollectManagerService` with which processes create clients and subscribe
events.  Each call is checked for its caller and then handed to the manager of the
subscriptions.
-/

namespace SecurityGuard

/-- The state of the service with its manager. -/
structure DataCollectManagerService (σ : Type) where
  manager : Manager σ
  clientCallBacks : SortedMap String Address := .empty
  /-- Whether the recipient of death notices exists yet. -/
  deathRecipient : Bool := false
  /-- How often the recipient is registered on a callback. -/
  registrations : SortedMap Address Nat := .empty

/-- A call with its arguments. -/
inductive ServiceCall where
  | subscribe (eventId : Int) (eventGroup : String) (callback : Address) (clientId : String)
  | unsubscribe (eventId : Int) (eventGroup : String) (callback : Address) (clientId : String)
  | subscribeEvent (eventId : Int) (clientId : String)
  | unsubscribeEvent (eventId : Int) (clientId : String)
  | creatClient (eventGroup clientId : String) (callback : Option Address)
  | destoryClient (eventGroup clientId : String)
  | addFilter (filter : EventMuteFilter) (clientId : String)
  | removeFilter (filter : EventMuteFilter) (clientId : String)
  | onRemoteDied (callback : Address)
  deriving DecidableEq

namespace DataCollectManagerService

variable {σ : Type} (config : ConfigData) (env : Externals σ)
  (service : DataCollectManagerService σ) (caller : Caller)

/-- Replace the manager. -/
def withManager (manager : Manager σ) : DataCollectManagerService σ := { service with manager }

/-- Hand a call to the manager. -/
def manage (call : Manager σ → Code × Manager σ) : Code × DataCollectManagerService σ :=
  ((call service.manager).1, service.withManager (call service.manager).2)

/-- Watch the callback object of a client. -/
def setDeathCallBack (callback : Address) : DataCollectManagerService σ :=
  { service with
    deathRecipient := true
    registrations :=
      service.registrations.insert callback
        ((service.registrations.get? callback).getD 0 + 1) }

/-- Take the recipient off a callback once, if it exists. -/
def removeDeathRecipient (callback : Address) : DataCollectManagerService σ :=
  if !service.deathRecipient then service
  else
    match service.registrations.get? callback with
    | none | some 0 => service
    | some 1 => { service with registrations := service.registrations.erase callback }
    | some (count + 2) =>
        { service with registrations := service.registrations.insert callback (count + 1) }

variable {service} in
@[simp]
theorem removeDeathRecipient_manager (callback : Address) :
    (service.removeDeathRecipient callback).manager = service.manager := by
  rw [removeDeathRecipient]
  split_ifs
  · rfl
  · split <;> rfl

variable {service} in
@[simp]
theorem removeDeathRecipient_clientCallBacks (callback : Address) :
    (service.removeDeathRecipient callback).clientCallBacks = service.clientCallBacks := by
  rw [removeDeathRecipient]
  split_ifs
  · rfl
  · split <;> rfl

/-- The older form of `Subscribe`, with a client of its own. -/
def subscribe (eventId : Int) (eventGroup : String) (callback : Address) (clientId : String) :
    Code × DataCollectManagerService σ :=
  let code := config.checkSubscribeInfo caller .subscribe eventGroup eventId
  if code ≠ .success then (code, service)
  else
    let info : Manager.SubscribeInfo :=
      { eventId, eventGroup, callback, callerPid := caller.pid }
    (service.setDeathCallBack callback).manage
      (·.insertSubscribeRecordWith config env info clientId)

/-- The older form of `Unsubscribe`. -/
def unsubscribe (eventId : Int) (eventGroup : String) (callback : Address)
    (clientId : String) : Code × DataCollectManagerService σ :=
  let code := config.checkSubscribeInfo caller .unSubscribe eventGroup eventId
  if code ≠ .success then (code, service)
  else
    (service.removeDeathRecipient callback).manage
      (·.removeSubscribeRecordCore config env eventId clientId true)

/-- Subscribe an event for a client of the caller. -/
def subscribeEvent (eventId : Int) (clientId : String) : Code × DataCollectManagerService σ :=
  let eventGroup := service.manager.getCurrentClientGroup clientId
  let code := config.checkClientGroup caller eventGroup [eventId]
  if code ≠ .success then (code, service)
  else service.manage (·.insertSubscribeRecord config env eventId clientId)

/-- Unsubscribe an event for a client of the caller. -/
def unsubscribeEvent (eventId : Int) (clientId : String) :
    Code × DataCollectManagerService σ :=
  let eventGroup := service.manager.getCurrentClientGroup clientId
  let code := config.checkClientGroup caller eventGroup [eventId]
  if code ≠ .success then (code, service)
  else service.manage (·.removeSubscribeRecordCore config env eventId clientId false)

/-- Remove a client of a group. -/
def destoryClient (eventGroup clientId : String) : Code × DataCollectManagerService σ :=
  if eventGroup = "" then (.badParam, service)
  else
    let code := config.checkClientGroup caller eventGroup []
    if code ≠ .success then (code, service)
    else
      -- Only a client that the service itself has created can be ended.
      match service.clientCallBacks.get? clientId with
      | none => (.badParam, service)
      | some callback =>
          let destroyed := service.manage (·.destoryClient config env clientId)
          if destroyed.1 ≠ .success then destroyed
          else
            let silent := destroyed.2.removeDeathRecipient callback
            (.success, { silent with clientCallBacks := silent.clientCallBacks.erase clientId })

/-- Make a client of a group. -/
def creatClient (eventGroup clientId : String) (callback : Option Address) :
    Code × DataCollectManagerService σ :=
  if eventGroup = "" then (.badParam, service)
  else
    let code := config.checkClientGroup caller eventGroup []
    if code ≠ .success then (code, service)
    else
      match callback with
      | none => (.nullObject, service)
      | some callback =>
          let created := service.manage (·.creatClient eventGroup clientId caller.pid callback)
          if created.1 ≠ .success then created
          else
            let watched := created.2.setDeathCallBack callback
            if watched.clientCallBacks.contains clientId then
              -- An entry that is left from an earlier session refuses the new one.
              (.badParam, (watched.manage (·.destoryClient config env clientId)).2)
            else
              (.success,
                { watched with
                  clientCallBacks := watched.clientCallBacks.insert clientId callback })

/-- Add a filter for a client of the caller. -/
def addFilter (filter : EventMuteFilter) (clientId : String) :
    Code × DataCollectManagerService σ :=
  let eventGroup := service.manager.getCurrentClientGroup clientId
  let code := config.checkClientGroup caller eventGroup [filter.eventId]
  if code ≠ .success then (code, service)
  else service.manage (·.insertSubscribeMute config env filter clientId)

/-- Remove a filter for a client of the caller. -/
def removeFilter (filter : EventMuteFilter) (clientId : String) :
    Code × DataCollectManagerService σ :=
  let eventGroup := service.manager.getCurrentClientGroup clientId
  let code := config.checkClientGroup caller eventGroup [filter.eventId]
  if code ≠ .success then (code, service)
  else service.manage (·.removeSubscribeMute config env filter clientId)

/-- The notice of the death of a process that holds a callback. -/
def onRemoteDied (callback : Address) : DataCollectManagerService σ :=
  let left := service.manager.removeSubscribeRecordOnRemoteDied config env callback
  (service.withManager left).removeDeathRecipient callback

/-- Serve a call of a process. -/
def serve : ServiceCall → Code × DataCollectManagerService σ
  | .subscribe eventId eventGroup callback clientId =>
      service.subscribe config env caller eventId eventGroup callback clientId
  | .unsubscribe eventId eventGroup callback clientId =>
      service.unsubscribe config env caller eventId eventGroup callback clientId
  | .subscribeEvent eventId clientId => service.subscribeEvent config env caller eventId clientId
  | .unsubscribeEvent eventId clientId =>
      service.unsubscribeEvent config env caller eventId clientId
  | .creatClient eventGroup clientId callback =>
      service.creatClient config env caller eventGroup clientId callback
  | .destoryClient eventGroup clientId =>
      service.destoryClient config env caller eventGroup clientId
  | .addFilter filter clientId => service.addFilter config env caller filter clientId
  | .removeFilter filter clientId => service.removeFilter config env caller filter clientId
  | .onRemoteDied callback => (.success, service.onRemoteDied config env callback)

/-- One call after another. -/
def next : Transition (DataCollectManagerService σ) (Caller × ServiceCall) :=
  fun service call => some (service.serve config env call.1 call.2).2

/-- Nothing outside the manager is needed for events without collectors. -/
def noExternals : Externals Unit where
  subscribeCollectors _ _ := (.failed, ())
  subscribeCollectorsBySticky _ _ := (.failed, ())
  unsubscribeCollectors _ _ := (.failed, ())
  scSubscribe _ _ := (.failed, ())
  scUnsubscribe _ _ := (.failed, ())
  eventFilter := none

/-- Event 7 is in the security group and event 8 in the audit group. -/
def twoGroupConfig : ConfigData where
  eventMap := (SortedMap.empty.insert 7 { eventId := 7 }).insert 8 { eventId := 8 }
  eventGroupMap :=
    (SortedMap.empty.insert "auditGroup"
      { eventGroupName := "auditGroup"
        eventList := SortedMap.empty.insert 8 ()
        permissionList := [querySecurityEventPermission] }).insert "securityGroup"
      { eventGroupName := "securityGroup"
        eventList := SortedMap.empty.insert 7 ()
        permissionList := [querySecurityEventPermission] }

/-- A caller that may use the interfaces of the system. -/
def systemCaller : Caller :=
  { pid := 10
    uid := 1000
    tokenType := .native
    permissions := [querySecurityEventPermission]
    isSystemApp := true }

end DataCollectManagerService

end SecurityGuard
