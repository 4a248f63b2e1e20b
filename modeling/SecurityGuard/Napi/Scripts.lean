import SecurityGuard.Event
import SecurityGuard.Sdk.DataCollectManager

/-!
# Subscriptions of scripts

A script subscribes a function with `on` and takes it back with `off`.  Both run on the thread of
the script and call the library, which has the service collect the event.  A notification comes in
on another thread: it makes a task for the thread of each script, and the task calls the function
if its subscriber is still in the table.  The task knows the subscriber by its machine address.
-/

namespace SecurityGuard

/-- The environment of a script, which has a thread of its own. -/
abbrev JsEnv := Nat

/-- A function of a script, up to strict equality. -/
abbrev JsFunction := Nat

/-- An event as a script gets it. -/
structure NapiSecurityEvent where
  eventId : Int
  version : String
  content : String
  timestamp : String
  deriving DecidableEq

/-- A function of a script with the subscriber that stands for it. -/
structure SubscribeCBInfo where
  callback : JsFunction
  subscriber : Address
  deriving DecidableEq

/-- The subscriber of a script, as `SetEnv` and `SetCallbackRef` leave it. -/
structure SubscriberPtr where
  env : JsEnv
  callback : JsFunction
  deriving DecidableEq

/-- The task of a notification. -/
structure SubscriberOAWorker where
  event : NapiSecurityEvent
  callback : JsFunction
  subscriber : Address
  deriving DecidableEq

/-- What an `off` is for: a function, whatever its event, or all functions for an event. -/
inductive OffScope where
  | function (callback : JsFunction)
  | event (eventId : Int)
  deriving DecidableEq

/-- The call in which the thread of a script is. -/
inductive ScriptCall where
  | on
  /-- The entries before and behind the one whose subscriber is being unsubscribed. -/
  | off (scope : OffScope) (passed rest : List SubscribeCBInfo)
  deriving DecidableEq

/-- A thread that waits for the library. -/
structure ScriptThread where
  call : ScriptCall
  info : SubscribeCBInfo
  id : CollectCallId
  deriving DecidableEq

/-- What a task learns from the engine of its script. -/
structure TaskAnswer where
  scopeOpens : Bool := true
  /-- Whether the object of the event can be made. -/
  generated : Bool := true
  /-- Whether the reference gives the function. -/
  referenced : Bool := true

/-- A step of a script, of the library or of a notification. -/
inductive ScriptAction where
  | on (env : JsEnv) (callback : JsFunction) (subscriber : Address) (search : ServiceSearch)
      (id : CollectCallId)
  | off (env : JsEnv) (scope : OffScope) (id : CollectCallId)
  /-- A section of the library. -/
  | proceed (env : JsEnv) (answer : CollectAnswer)
  /-- The library has returned, and the call goes on. -/
  | resume (env : JsEnv) (id : CollectCallId)
  | notify (event : NapiSecurityEvent)
  /-- The next subscriber of the notification gets its task, if it can be sent. -/
  | forward (sent : Bool)
  | run (env : JsEnv) (answer : TaskAnswer)

/-- The scripts of a process, the library and the notification that is being handed on. -/
structure ScriptSystem where
  collect : CollectSystem := {}
  /-- `g_subscribers`. -/
  subscribers : SortedMap JsEnv (List SubscribeCBInfo) := .empty
  /-- Every subscriber made so far. -/
  objects : SortedMap Address SubscriberPtr := .empty
  threads : SortedMap JsEnv ScriptThread := .empty
  /-- The script whose `off` holds `g_subscribeMutex`. -/
  holder : Option JsEnv := none
  notifying : Option (NapiSecurityEvent × List Address) := none
  tasks : SortedMap JsEnv (List SubscriberOAWorker) := .empty

/-- Whether an `off` is for an entry. -/
def OffScope.wants (eventId : Address → Int) : OffScope → SubscribeCBInfo → Bool
  | function callback, info => info.callback = callback
  | event id, info => eventId info.subscriber = id

/-- `UnsubscribeSync` ends with the first entry. -/
def OffScope.isSingle : OffScope → Bool
  | function _ => true
  | event _ => false

namespace ScriptSystem

variable (eventId : Address → Int) (pointer : Address → Nat) (system : ScriptSystem)

/-- The functions of a script with their subscribers. -/
def infos (env : JsEnv) : List SubscribeCBInfo := (system.subscribers.get? env).getD []

/-- The tasks that wait for the thread of a script. -/
def queue (env : JsEnv) : List SubscriberOAWorker := (system.tasks.get? env).getD []

/-- The subscribers that something still holds. -/
def liveObjects : List Address :=
  (system.subscribers.entries.flatMap fun entry => entry.2.map SubscribeCBInfo.subscriber) ++
    system.collect.manager.subscribers.keys ++ (system.notifying.elim [] Prod.snd)

/-- A new object has a machine address that no live one has. -/
def isFresh (subscriber : Address) : Bool :=
  !system.objects.contains subscriber &&
    system.liveObjects.all fun other => pointer other ≠ pointer subscriber

/-- Whether a script can make a call that takes the mutex. -/
def isFree (env : JsEnv) : Bool := !system.threads.contains env && system.holder.isNone

/-- A script registers a function, and the library subscribes a new object. -/
def on (env : JsEnv) (callback : JsFunction) (subscriber : Address) (search : ServiceSearch)
    (id : CollectCallId) : Option ScriptSystem :=
  if !system.isFree env || !system.isFresh pointer subscriber then none
  -- A function that is registered is not registered again.
  else if (system.infos env).any fun info => info.callback = callback then some system
  else
    let info := { callback, subscriber }
    (CollectSystem.next eventId system.collect (.subscribe id (some subscriber) search)).map
      fun collect =>
        { system with
          collect
          subscribers := system.subscribers.insert env (system.infos env ++ [info])
          objects := system.objects.insert subscriber { env, callback }
          threads := system.threads.insert env { call := .on, info, id } }

/-- What follows the answer of the library; a refusal takes the mutex again. -/
def finishOn (env : JsEnv) (info : SubscribeCBInfo) (code : Code) : Option ScriptSystem :=
  let threads := system.threads.erase env
  if code = .success then some { system with threads }
  else if system.holder.isSome then none
  else
    let left := (system.infos env).filter fun other => other.subscriber ≠ info.subscriber
    some { system with threads, subscribers := system.subscribers.insert env left }

/-- The end of the loop: a script without entries has no list. -/
def endOff (env : JsEnv) : ScriptSystem :=
  { system with
    threads := system.threads.erase env
    holder := none
    subscribers :=
      if system.infos env = [] then system.subscribers.erase env else system.subscribers }

/-- The loop from an entry on: the next one that is wanted is unsubscribed. -/
def offFrom (env : JsEnv) (scope : OffScope) (passed left : List SubscribeCBInfo)
    (id : CollectCallId) : Option ScriptSystem :=
  match left.dropWhile fun info => !scope.wants eventId info with
  | [] => some (system.endOff env)
  | info :: rest =>
      let skipped := left.takeWhile fun info => !scope.wants eventId info
      (CollectSystem.next eventId system.collect (.unsubscribe id (some info.subscriber))).map
        fun collect =>
          { system with
            collect
            holder := some env
            threads := system.threads.insert env
              { call := .off scope (passed ++ skipped) rest, info, id } }

/-- A script takes functions back. -/
def off (env : JsEnv) (scope : OffScope) (id : CollectCallId) : Option ScriptSystem :=
  if !system.isFree env then none
  else if !system.subscribers.contains env then some system
  else system.offFrom eventId env scope [] (system.infos env) id

/-- What follows the answer of the library; a refusal ends the loop with the entry in its place. -/
def finishOff (env : JsEnv) (scope : OffScope) (passed rest : List SubscribeCBInfo) (code : Code)
    (id : CollectCallId) : Option ScriptSystem :=
  if code ≠ .success then
    -- A failure ends the call and leaves the functions that come after.
    some { system with threads := system.threads.erase env, holder := none }
  else
    let erased :=
      { system with subscribers := system.subscribers.insert env (passed ++ rest) }
    if scope.isSingle then some (erased.endOff env)
    else erased.offFrom eventId env scope passed rest id

/-- A call whose library has returned. -/
def resume (env : JsEnv) (id : CollectCallId) : Option ScriptSystem :=
  (system.threads.get? env).bind fun thread =>
    match (system.collect.calls.get? thread.id).map CollectCall.stage with
    | some (.finished code) =>
        match thread.call with
        | .on => system.finishOn env thread.info code
        | .off scope passed rest => system.finishOff eventId env scope passed rest code id
    | _ => none

/-- The library goes on with the call of a script. -/
def proceed (env : JsEnv) (answer : CollectAnswer) : Option ScriptSystem :=
  (system.threads.get? env).bind fun thread =>
    (CollectSystem.next eventId system.collect (.proceed thread.id answer)).map
      fun collect => { system with collect }

/-- The library takes the subscribers for an event down under its lock. -/
def notify (event : NapiSecurityEvent) : Option ScriptSystem :=
  if system.notifying.isSome then none
  else
    let list := system.collect.manager.subscribers.keys.filter fun subscriber =>
      eventId subscriber = event.eventId
    some { system with notifying := some (event, list) }

/-- `OnNotify` of the next subscriber, or the end. -/
def forward (sent : Bool) : Option ScriptSystem :=
  match system.notifying with
  | none => none
  | some (_, []) => some { system with notifying := none }
  | some (event, subscriber :: rest) =>
      (system.objects.get? subscriber).map fun object =>
        let task := { event, callback := object.callback, subscriber }
        { system with
          notifying := some (event, rest)
          tasks :=
            -- A task that cannot be sent is lost.
            if sent then system.tasks.insert object.env (system.queue object.env ++ [task])
            else system.tasks }

/-- Whether a task finds its subscriber: it compares machine addresses. -/
def isFound (task : SubscriberOAWorker) : Bool :=
  system.subscribers.entries.any fun entry =>
    entry.2.any fun info => pointer info.subscriber = pointer task.subscriber

/-- The call of a function that a task makes. -/
def called (task : SubscriberOAWorker) (answer : TaskAnswer) :
    Option (JsFunction × NapiSecurityEvent) :=
  if !answer.scopeOpens then none
  else if !system.isFound pointer task then none
  else if !answer.generated || !answer.referenced then none
  else some (task.callback, task.event)

/-- The thread of a script takes its next task, which looks for its subscriber under the mutex. -/
def run (env : JsEnv) (answer : TaskAnswer) : Option ScriptSystem :=
  if system.threads.contains env || (answer.scopeOpens && system.holder.isSome) then none
  else
    match system.queue env with
    | [] => none
    | _ :: rest => some { system with tasks := system.tasks.insert env rest }

/-- The state after a step that is possible. -/
def next : Transition ScriptSystem ScriptAction := fun system action =>
  match action with
  | .on env callback subscriber search id =>
      system.on eventId pointer env callback subscriber search id
  | .off env scope id => system.off eventId env scope id
  | .proceed env answer => system.proceed eventId env answer
  | .resume env id => system.resume eventId env id
  | .notify event => system.notify eventId event
  | .forward sent => system.forward sent
  | .run env answer => system.run env answer

end ScriptSystem

end SecurityGuard
