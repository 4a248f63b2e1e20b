import SecurityGuard.Foundation.Mirror
import SecurityGuard.Sdk.Orphans
import SecurityGuard.Sdk.SingleDeath

/-!
# What a subscriber of authorisation events is subscribed to after a recovery

A recovery subscribes the events of a snapshot in the new session, while calls of the application
that were accepted before the death are still to be recorded and others reach the new session.
The session and the client agree in the end when every change that is recorded after the snapshot
is what the recovery will have left, or is corrected by another one still to be recorded.
-/

namespace SecurityGuard

/-- The call has come to its end. -/
def AuthEventCall.ended : AuthEventCall → Bool
  | .update _ _ (.returned _) | .release .returned => true
  | _ => false

namespace Reconnection

/-- The task has taken its snapshot and not given up. -/
def underWay (task : Reconnection) : Bool :=
  match task.stage with
  | .snapshot | .finished => false
  | _ => true

/-- The client has not got a new session. -/
def waits (task : Reconnection) : Bool :=
  match task.stage with
  | .snapshot | .subscribe _ _ | .finished => false
  | _ => true

/-- The task is in the loop over the events. -/
def resubscribes (task : Reconnection) : Bool :=
  match task.stage with
  | .subscribe _ _ => true
  | _ => false

/-- The session that the task has had made. -/
def session? (task : Reconnection) : Option Address :=
  match task.stage with
  | .switchSessionRemote session | .subscribe session _ => some session
  | _ => none

end Reconnection

namespace AuthEventSystem

variable (system : AuthEventSystem)

/-- The service has made a change that the client is still to record. -/
def Unrecorded (calls : SortedMap ClientCallId AuthEventCall) (eventId : Int) (member : Bool) :
    Prop :=
  calls.Has fun call => call = .update member eventId .record

instance (calls : SortedMap ClientCallId AuthEventCall) (eventId : Int) (member : Bool) :
    Decidable (Unrecorded calls eventId member) :=
  inferInstanceAs (Decidable (calls.Has _))

/-- Whether the new session will have an event once the task has subscribed what is left. -/
def target (task : Reconnection) (eventId : Int) : Bool :=
  match task.stage with
  | .subscribe session todo =>
      (system.eventsOf session).contains eventId || decide (eventId ∈ todo)
  | _ => task.events.contains eventId

/-- What is recorded differs from what a task will have left, and no other call corrects it. -/
def Contradicts (others : SortedMap ClientCallId AuthEventCall) (member : Bool) (eventId : Int)
    (task : Reconnection) : Prop :=
  task.underWay = true ∧ system.target task eventId ≠ member ∧
    ¬Unrecorded others eventId (system.target task eventId)

instance (others : SortedMap ClientCallId AuthEventCall) (member : Bool) (eventId : Int)
    (task : Reconnection) : Decidable (system.Contradicts others member eventId task) :=
  inferInstanceAs (Decidable (_ ∧ _ ∧ _))

/-- What a section records after the snapshot contradicts no task. -/
def AgreesAt (others : SortedMap ClientCallId AuthEventCall) : AuthEventCall → Prop
  | .update member eventId .record =>
      ¬system.reconnections.Has (system.Contradicts others member eventId)
  | _ => True

instance (others : SortedMap ClientCallId AuthEventCall) :
    ∀ call, Decidable (system.AgreesAt others call)
  | .update _ _ .record => inferInstanceAs (Decidable (¬_))
  | .update _ _ .readSession | .update _ _ (.callSession _) | .update _ _ (.returned _)
  | .release _ => inferInstanceAs (Decidable True)

/-- A step leaves the client and the session of the service in agreement. -/
def Agrees : AuthEventAction → Prop
  | .proceed id _ => ∀ call ∈ system.calls.get? id, system.AgreesAt (system.calls.erase id) call
  | _ => True

instance : ∀ action, Decidable (system.Agrees action)
  | .proceed id _ =>
      inferInstanceAs
        (Decidable (∀ call ∈ system.calls.get? id, system.AgreesAt (system.calls.erase id) call))
  | .serviceStarts _ | .serviceDies | .remoteDied _ _ _ | .creatClient _ _ | .setDeathRecipient _
  | .subscribe _ _ | .unsubscribe _ _ | .deleteClient _ | .reconnect _ _ =>
      inferInstanceAs (Decidable True)

/-- The client is kept, the service dies once, and it subscribes what a recovery asks for. -/
def Premises : AuthEventAction → Prop
  | .deleteClient _ => False
  | .serviceDies => system.started.size ≤ 1
  | .reconnect id answer =>
      ∀ task ∈ system.reconnections.get? id, task.resubscribes = true → answer.code = .success
  | _ => True

instance : ∀ action, Decidable (system.Premises action)
  | .deleteClient _ => inferInstanceAs (Decidable False)
  | .serviceDies => inferInstanceAs (Decidable (_ ≤ _))
  | .reconnect id answer =>
      inferInstanceAs
        (Decidable (∀ task ∈ system.reconnections.get? id, _ → answer.code = .success))
  | .serviceStarts _ | .remoteDied _ _ _ | .creatClient _ _ | .setDeathRecipient _
  | .subscribe _ _ | .unsubscribe _ _ | .proceed _ _ => inferInstanceAs (Decidable True)

/-- A recovery has been started, and everything has come to its end. -/
structure Settled : Prop where
  recovered : 0 < system.reconnections.size
  calls : ¬system.calls.Has fun call => call.ended = false
  reconnections : ¬system.reconnections.Has fun task => task.ended = false

/-- The session of the client has the events that the client has. -/
def Restored : Prop :=
  ∀ session, system.table.isOpen system.service session = true →
    system.eventsOf session = system.client.subscribedEventIds

/-- What holds while a task is about. -/
structure RestoringAt (task : Reconnection) : Prop where
  opened : ∀ session, system.table.isOpen system.service session = true →
    task.session? = some session
  mirrors : task.underWay = true →
    Mirrors system.client.subscribedEventIds.contains (system.target task)
      (Unrecorded system.calls)
  waiting : task.waits = true → system.client.sessionRemote = none
  created : ∀ session, task.session? = some session →
    system.table.creator.contains session = true
  fresh : ∀ session, task.stage = .switchSessionRemote session →
    system.eventsOf session = .empty ∧ ∀ id member eventId,
      system.calls.get? id ≠ some (.update member eventId (.callSession session))

/-- What holds while the session of a client is restored. -/
structure Restoring : Prop where
  single : SingleDeath system.service system.started system.notices system.reconnections.size
  within : system.table.Within system.started
  kept : system.client.deleted = false
  updates : ∀ id stage, system.calls.get? id ≠ some (.release stage)
  made : system.creation ≠ .returned →
    system.notices.size = 0 ∧ system.reconnections.size = 0 ∧
      ∀ object, system.client.deathRecipient.registered.contains object = false
  known : ∀ session, system.client.sessionRemote = some session →
    system.table.creator.contains session = true
  called : ∀ id member eventId session,
    system.calls.get? id = some (.update member eventId (.callSession session)) →
      system.table.creator.contains session = true
  closed : system.notices.size ≠ 0 → ∀ session,
    system.table.isOpen system.service session = false
  task : ∀ id task, system.reconnections.get? id = some task → system.RestoringAt task

variable {system} {after : AuthEventSystem}

theorem restoring_initial : Restoring {} where
  single :=
    { live := fun object found => absurd found (by simp), one := by simp, first := by simp }
  within := fun session object found => absurd found (by simp)
  kept := rfl
  updates := fun id stage => by simp
  made := fun _ => ⟨rfl, rfl, fun object => rfl⟩
  known := fun session found => absurd found (by simp)
  called := fun id member eventId session found => absurd found (by simp)
  closed := fun noticed => absurd rfl noticed
  task := fun id task found => absurd found (by simp)

/-- When everything has come to its end the session and the client agree. -/
theorem Restoring.restored (restoring : system.Restoring) (settled : system.Settled) :
    system.Restored := by
  intro session opened
  obtain ⟨id, task, found⟩ := SortedMap.exists_of_size_pos settled.recovered
  obtain ⟨opens, mirrors, _, _, _⟩ := restoring.task id task found
  have ended : task.ended = true := by
    by_contra going
    exact settled.reconnections ⟨id, task, found, by simpa using going⟩
  have own := opens session opened
  obtain ⟨delays, events, stage⟩ := task
  cases stage with
  | subscribe session' todo =>
      obtain rfl := Option.some.inj own
      cases todo with
      | cons eventId todo => exact absurd ended (by simp [Reconnection.ended])
      | nil =>
          have recorded (eventId : Int) (member : Bool) :
              ¬Unrecorded system.calls eventId member := by
            rintro ⟨id, call, present, rfl⟩
            exact settled.calls ⟨id, _, present, rfl⟩
          have same := (mirrors rfl).settled recorded
          apply SortedMap.ext_contains
          intro eventId
          rw [same]
          simp [target]
  | switchSessionRemote newSession => exact absurd ended (by simp [Reconnection.ended])
  | _ => exact absurd own (by simp [Reconnection.session?])

/-! ## The service -/

/-- A step that touches no call and no task, and after which the open sessions were open before. -/
theorem Restoring.of_same (restoring : system.Restoring)
    (single : SingleDeath after.service after.started after.notices after.reconnections.size)
    (table : after.table = system.table)
    (started : ∀ object, system.started.contains object = true →
      after.started.contains object = true)
    (opened : ∀ session, after.table.isOpen after.service session = true →
      system.table.isOpen system.service session = true)
    (noticed : after.notices.size ≠ 0 → ∀ session,
      after.table.isOpen after.service session = false)
    (client : after.client.subscribedEventIds = system.client.subscribedEventIds ∧
      after.client.sessionRemote = system.client.sessionRemote ∧
        after.client.deleted = system.client.deleted)
    (events : after.eventIds = system.eventIds) (calls : after.calls = system.calls)
    (tasks : after.reconnections = system.reconnections)
    (made : after.creation ≠ .returned →
      after.notices.size = 0 ∧ after.reconnections.size = 0 ∧
        ∀ object, after.client.deathRecipient.registered.contains object = false) :
    after.Restoring where
  single := single
  within := by
    rw [table]
    exact fun session object created => started object (restoring.within session object created)
  kept := client.2.2.trans restoring.kept
  updates := by
    rw [calls]
    exact restoring.updates
  made := made
  known := by
    rw [client.2.1, table]
    exact restoring.known
  called := by
    rw [calls, table]
    exact restoring.called
  closed := noticed
  task := by
    rw [tasks]
    intro id task found
    obtain ⟨opens, mirrors, waiting, created, fresh⟩ := restoring.task id task found
    have target : after.target task = system.target task := by
      funext eventId
      simp only [AuthEventSystem.target, eventsOf, events]
    refine ⟨fun session found => opens session (opened session found), ?_, ?_, ?_, ?_⟩
    · rw [client.1, target, calls]
      exact mirrors
    · rw [client.2.1]
      exact waiting
    · rw [table]
      exact created
    · rw [calls]
      simp only [eventsOf, events]
      exact fresh

theorem Restoring.serviceStarts (restoring : system.Restoring) {object : Address}
    (fresh : system.started.contains object = false) :
    ({ system with
        service := some object
        started := system.started.insert object () } : AuthEventSystem).Restoring := by
  have closed (session : Address) : system.table.isOpen (some object) session = false :=
    restoring.within.isOpen_fresh fresh
  refine restoring.of_same (restoring.single.starts fresh) rfl (fun other found => ?_)
    (fun session opened => ?_) (fun _ => closed) ⟨rfl, rfl, rfl⟩ rfl rfl rfl restoring.made
  · simp [found]
  · exact absurd opened (by simp [closed])

theorem Restoring.serviceDies (restoring : system.Restoring) {object : Address}
    (alive : system.service = some object) (once : system.started.size ≤ 1) :
    (system.serviceDies object).Restoring := by
  have closed (session : Address) : ¬(system.serviceDies object).table.isOpen
      (system.serviceDies object).service session = true := by
    simp [AuthEventSystem.serviceDies, SessionTable.isOpen_none]
  refine restoring.of_same (restoring.single.dies alive once ?_) rfl (fun _ found => found)
    (fun session opened => absurd opened (closed session))
    (fun _ session => by simpa using closed session) ⟨rfl, rfl, rfl⟩ rfl rfl rfl ?_
  · rw [AuthEventSystem.serviceDies]
    dsimp only
    split_ifs
    · exact .inr rfl
    · exact .inl rfl
  · intro unmade
    obtain ⟨notices, tasks, unregistered⟩ := restoring.made unmade
    refine ⟨?_, tasks, unregistered⟩
    simp [AuthEventSystem.serviceDies, unregistered, notices]

theorem Restoring.remoteDied (restoring : system.Restoring) {object : Address}
    {id : ReconnectionId} {promoted : Bool} (noticed : system.notices.contains object = true) :
    (system.remoteDied object id promoted).Restoring := by
  have some := SortedMap.size_erase noticed
  obtain ⟨single, none, only⟩ := restoring.single.begins noticed id ({} : Reconnection)
  constructor
  · exact single
  · exact restoring.within
  · exact restoring.kept
  · exact restoring.updates
  · intro unmade
    have empty := (restoring.made unmade).1
    omega
  · exact restoring.known
  · exact restoring.called
  · exact fun left => absurd none left
  · intro other task found
    obtain rfl := only other task found
    refine ⟨fun session opened => ?_, fun way => absurd way (by simp [Reconnection.underWay]),
      fun waits => absurd waits (by simp [Reconnection.waits]),
      fun session made => absurd made (by simp [Reconnection.session?]),
      fun session stage => absurd stage (by simp)⟩
    have closed := restoring.closed (by omega) session
    exact absurd opened (by simp [AuthEventSystem.remoteDied, watched, closed])

theorem Restoring.creatClient (restoring : system.Restoring) {object session : Address}
    {table : SessionTable} (start : system.creation = .start)
    (created : system.table.create? system.service object session = some table) :
    ({ system with
        client := { system.client with sessionRemote := some session }
        creation := .setDeathRecipient object
        table
        eventIds := system.eventIds.insert session .empty } : AuthEventSystem).Restoring := by
  obtain ⟨notices, tasks, unregistered⟩ := restoring.made (by simp [start])
  have alive := (SessionTable.create?_eq_some.mp created).1
  obtain ⟨_, _, _, rfl⟩ := SessionTable.create?_eq_some.mp created
  refine ⟨restoring.single, restoring.within.create? (restoring.single.live object alive) created,
    restoring.kept, restoring.updates, fun _ => ⟨notices, tasks, unregistered⟩, ?_, ?_,
    fun noticed => absurd notices noticed, ?_⟩
  · intro other same
    obtain rfl := Option.some.inj same
    simp
  · intro id member eventId other found
    simp [restoring.called id member eventId other found]
  · intro id task found
    exact absurd found (by simp [SortedMap.get?_eq_none_of_size tasks])

theorem Restoring.setDeathRecipient (restoring : system.Restoring) (watch : DeathWatch) :
    ({ system.watched watch with creation := .returned } : AuthEventSystem).Restoring :=
  restoring.of_same restoring.single rfl (fun _ found => found) (fun _ opened => opened)
    restoring.closed ⟨rfl, rfl, rfl⟩ rfl rfl rfl fun unmade => absurd rfl unmade

section

variable {id : ClientCallId} {call : AuthEventCall}

theorem unrecorded_insert (next : AuthEventCall) (eventId : Int) (member : Bool) :
    Unrecorded (system.calls.insert id next) eventId member ↔
      next = .update member eventId .record ∨
        Unrecorded (system.calls.erase id) eventId member :=
  SortedMap.has_insert ..

theorem unrecorded_of_get? (found : system.calls.get? id = some call) (eventId : Int)
    (member : Bool) :
    Unrecorded system.calls eventId member ↔
      call = .update member eventId .record ∨
        Unrecorded (system.calls.erase id) eventId member :=
  SortedMap.has_of_get? found _

/-- A call goes on: the table, the tasks and the service are as they were. -/
theorem Restoring.of_call (restoring : system.Restoring) (found : system.calls.get? id = some call)
    (next : AuthEventCall) (goesOn : ∀ stage, next ≠ .release stage)
    (reads : ∀ member eventId session, next = .update member eventId (.callSession session) →
      system.client.sessionRemote = some session)
    (client : after.client.sessionRemote = system.client.sessionRemote ∧
      after.client.deleted = system.client.deleted ∧
        after.client.deathRecipient = system.client.deathRecipient)
    (creation : after.creation = system.creation)
    (service : after.service = system.service ∧ after.started = system.started ∧
      after.notices = system.notices)
    (table : after.table = system.table)
    (tasks : after.reconnections = system.reconnections)
    (calls : after.calls = system.calls.insert id next)
    (events : ∀ session, after.eventsOf session = system.eventsOf session ∨
      ∃ member eventId, call = .update member eventId (.callSession session))
    (mirrors : ∀ other task, system.reconnections.get? other = some task →
      task.underWay = true →
        Mirrors after.client.subscribedEventIds.contains (after.target task)
          (Unrecorded after.calls)) : after.Restoring where
  single := by
    rw [service.1, service.2.1, service.2.2, tasks]
    exact restoring.single
  within := by
    rw [table, service.2.1]
    exact restoring.within
  kept := client.2.1.trans restoring.kept
  updates := by
    rw [calls]
    intro other stage present
    rcases SortedMap.get?_insert_eq_some.mp present with ⟨_, same⟩ | ⟨_, before⟩
    · exact goesOn stage same
    · exact restoring.updates other stage before
  made := by
    rw [creation, service.2.2, tasks, client.2.2]
    exact restoring.made
  known := by
    rw [client.1, table]
    exact restoring.known
  called := by
    rw [calls, table]
    intro other member eventId session present
    rcases SortedMap.get?_insert_eq_some.mp present with ⟨_, same⟩ | ⟨_, before⟩
    · exact restoring.known session (reads member eventId session same)
    · exact restoring.called other member eventId session before
  closed := by
    rw [service.1, service.2.2, table]
    exact restoring.closed
  task := by
    rw [tasks]
    intro other task present
    obtain ⟨opens, _, waiting, created, fresh⟩ := restoring.task other task present
    refine ⟨?_, mirrors other task present, ?_, ?_, fun session stage => ?_⟩
    · rw [service.1, table]
      exact opens
    · rw [client.1]
      exact waiting
    · rw [table]
      exact created
    · obtain ⟨empty, uncalled⟩ := fresh session stage
      constructor
      · rcases events session with same | ⟨member, eventId, rfl⟩
        · exact same.trans empty
        · exact absurd found (uncalled id member eventId)
      · rw [calls]
        intro place member eventId present'
        rcases SortedMap.get?_insert_eq_some.mp present' with ⟨_, same⟩ | ⟨_, before⟩
        · have remote := reads member eventId session same
          have none := waiting (by simp [Reconnection.waits, stage])
          exact absurd (remote.symm.trans none) (by simp)
        · exact uncalled place member eventId before

/-- A change that a session accepts reaches what a task will have left there, unless the task is
still to subscribe the event. -/
theorem target_applyAt {session : Address} {member : Bool} {eventId : Int} {task : Reconnection}
    {todo : List Int} (stage : task.stage = .subscribe session todo) (other : Int) :
    (system.applyAt session member eventId).target task other = system.target task other ∨
      (other = eventId ∧ (system.applyAt session member eventId).target task other = member) := by
  have events : (system.applyAt session member eventId).eventsOf session =
      if member then (system.eventsOf session).insert eventId ()
      else (system.eventsOf session).erase eventId := by
    simp [applyAt, eventsOf]
  simp only [target, stage, events]
  by_cases same : other = eventId
  · cases member with
    | true => exact .inr ⟨same, by simp [same]⟩
    | false =>
        cases left : decide (other ∈ todo) with
        | true => exact .inl (by simp)
        | false => exact .inr ⟨same, by simp [same]⟩
  · refine .inl ?_
    cases member <;> simp [same]

/-- What is recorded of one event. -/
theorem contains_recordEvent (member : Bool) (eventId : Int) :
    (system.recordEvent member eventId).client.subscribedEventIds.contains =
      Function.update system.client.subscribedEventIds.contains eventId member := by
  funext other
  by_cases same : other = eventId
  · subst same
    cases member <;> simp [recordEvent]
  · cases member <;> simp [recordEvent, same]

theorem Restoring.update (restoring : system.Restoring) {member : Bool} {eventId : Int}
    {stage : UpdateStage} (found : system.calls.get? id = some (.update member eventId stage))
    (agrees : system.AgreesAt (system.calls.erase id) (.update member eventId stage))
    {answer : AuthEventAnswer} {result : UpdateStage × AuthEventSystem}
    (taken : system.update member eventId answer stage = some result) :
    AuthEventSystem.Restoring
      { result.2 with
        calls := system.calls.insert id (.update member eventId result.1) } := by
  -- a section that changes neither set
  have quiet (unrecorded : stage ≠ .record) (next : UpdateStage)
      (reads : ∀ session, next = .callSession session →
        system.client.sessionRemote = some session) :
      AuthEventSystem.Restoring
        { system with calls := system.calls.insert id (.update member eventId next) } := by
    refine restoring.of_call found (.update member eventId next) (by simp)
      (fun _ _ session same => ?_) ⟨rfl, rfl, rfl⟩ rfl ⟨rfl, rfl, rfl⟩ rfl rfl rfl
      (fun _ => .inl rfl) fun other task present way => ?_
    · exact reads session (AuthEventCall.update.inj same).2.2
    · refine ((restoring.task other task present).mirrors way).mono fun key value pending => ?_
      rcases (unrecorded_of_get? found key value).mp pending with own | others
      · exact absurd own (by simp [unrecorded])
      · exact (unrecorded_insert ..).mpr (.inr others)
  cases stage with
  | readSession =>
      rw [AuthEventSystem.update] at taken
      split_ifs at taken
      · obtain rfl := Option.some.inj taken
        exact quiet (by simp) _ (by simp)
      · split at taken <;> obtain rfl := Option.some.inj taken
        · exact quiet (by simp) _ (by simp)
        · next session remote =>
          refine quiet (by simp) _ fun other same => ?_
          rw [← UpdateStage.callSession.inj same]
          exact remote
  | callSession session =>
      rw [AuthEventSystem.update] at taken
      split_ifs at taken with accepted opened <;> obtain rfl := Option.some.inj taken
      · refine restoring.of_call found (.update member eventId .record) (by simp) (by simp)
          ⟨rfl, rfl, rfl⟩ rfl ⟨rfl, rfl, rfl⟩ rfl rfl rfl (fun other => ?_)
          fun other task present way => ?_
        · by_cases same : other = session
          · exact .inr ⟨member, eventId, same ▸ rfl⟩
          · exact .inl (by simp [applyAt, eventsOf, same])
        · obtain ⟨opens, mirrors, _, _, fresh⟩ := restoring.task other task present
          have own := opens session opened
          cases at_ : task.stage with
          | subscribe session' todo =>
              rw [Reconnection.session?, at_] at own
              obtain rfl := Option.some.inj own
              refine (mirrors way).accept (target_applyAt at_) (fun key value pending => ?_)
                ((unrecorded_insert ..).mpr (.inl rfl))
              rcases (unrecorded_of_get? found key value).mp pending with own | others
              · exact absurd own (by simp)
              · exact (unrecorded_insert ..).mpr (.inr others)
          | switchSessionRemote session' =>
              rw [Reconnection.session?, at_] at own
              obtain rfl := Option.some.inj own
              exact absurd found ((fresh _ at_).2 id member eventId)
          | _ => exact absurd own (by simp [Reconnection.session?, at_])
      · exact quiet (by simp) _ (by simp)
  | record =>
      obtain rfl := Option.some.inj taken
      refine restoring.of_call found (.update member eventId (.returned .success)) (by simp)
        (by simp) ⟨rfl, rfl, rfl⟩ rfl ⟨rfl, rfl, rfl⟩ rfl rfl rfl (fun _ => .inl rfl)
        fun other task present way => ?_
      dsimp only
      rw [contains_recordEvent]
      refine ((restoring.task other task present).mirrors way).record ?_ fun key value pending => ?_
      · by_contra contradicted
        obtain ⟨different, unsettled⟩ := not_or.mp contradicted
        refine agrees ⟨other, task, present, way, different, fun corrected => unsettled ?_⟩
        exact (unrecorded_insert ..).mpr (.inr corrected)
      · rcases (unrecorded_of_get? found key value).mp pending with own | others
        · obtain ⟨rfl, rfl, _⟩ := AuthEventCall.update.inj own
          exact .inr ⟨rfl, rfl⟩
        · exact .inl ((unrecorded_insert ..).mpr (.inr others))
  | returned code => exact absurd taken (by simp [AuthEventSystem.update])

end

/-! ## Recoveries -/

section

variable {id : ReconnectionId} {current : Reconnection}

/-- A task that has no session, as long as none is open. -/
theorem RestoringAt.of_waiting {task : Reconnection} (unmade : task.session? = none)
    (closed : ∀ session, ¬system.table.isOpen system.service session = true)
    (mirrors : Mirrors system.client.subscribedEventIds.contains task.events.contains
      (Unrecorded system.calls)) (remote : system.client.sessionRemote = none) :
    system.RestoringAt task where
  opened := fun session opened => absurd opened (closed session)
  mirrors := by
    intro _
    have target : system.target task = task.events.contains := by
      obtain ⟨delays, events, stage⟩ := task
      cases stage with
      | subscribe session todo => exact absurd unmade (by simp [Reconnection.session?])
      | _ => rfl
    rw [target]
    exact mirrors
  waiting := fun _ => remote
  created := fun session made => absurd (made.symm.trans unmade) (by simp)
  fresh := fun session stage => absurd unmade (by simp [Reconnection.session?, stage])

/-- The task goes on, and there is no other. -/
theorem Restoring.of_task (restoring : system.Restoring)
    (found : system.reconnections.get? id = some current) (next : Reconnection)
    (service : after.service = system.service ∧ after.started = system.started ∧
      after.notices = system.notices)
    (calls : after.calls = system.calls) (creation : after.creation = system.creation)
    (deleted : after.client.deleted = system.client.deleted)
    (within : after.table.Within system.started)
    (creators : ∀ session, system.table.creator.contains session = true →
      after.table.creator.contains session = true)
    (known : ∀ session, after.client.sessionRemote = some session →
      after.table.creator.contains session = true)
    (tasks : after.reconnections = system.reconnections.insert id next)
    (goesOn : after.RestoringAt next) : after.Restoring := by
  obtain ⟨single, none, only⟩ := restoring.single.goesOn found next
  refine ⟨?_, ?_, deleted.trans restoring.kept, ?_, fun unmade => ?_, known, ?_, fun noticed => ?_,
    fun other task present => ?_⟩
  · rw [service.1, service.2.1, service.2.2, tasks]
    exact single
  · rw [service.2.1]
    exact within
  · rw [calls]
    exact restoring.updates
  · have gone := (restoring.made (creation ▸ unmade)).2.1
    exact absurd found (by simp [SortedMap.get?_eq_none_of_size gone])
  · rw [calls]
    exact fun other member eventId session present =>
      creators session (restoring.called other member eventId session present)
  · rw [service.2.2] at noticed
    exact absurd none noticed
  · rw [tasks] at present
    obtain rfl := only other task present
    exact goesOn

theorem Restoring.handleDeath (restoring : system.Restoring)
    (found : system.reconnections.get? id = some current) {answer : AuthEventAnswer}
    (answered : current.resubscribes = true → answer.code = .success)
    {result : Reconnection × AuthEventSystem}
    (taken : system.handleDeath current answer = some result) :
    AuthEventSystem.Restoring
      { result.2 with reconnections := system.reconnections.insert id result.1 } := by
  obtain ⟨opens, mirrors, waiting, created, fresh⟩ := restoring.task id current found
  obtain ⟨delays, events, stage⟩ := current
  -- a section that waits for a session before it and afterwards
  have waits (unmade : Reconnection.session? ⟨delays, events, stage⟩ = none)
      (remote : system.client.sessionRemote = none)
      (kept : Mirrors system.client.subscribedEventIds.contains events.contains
        (Unrecorded system.calls)) (next : Reconnection) (unmade' : next.session? = none)
      (same : next.events = events) (watch : DeathWatch) :
      AuthEventSystem.Restoring
        { system.watched watch with
          reconnections := system.reconnections.insert id next } := by
    refine restoring.of_task found next ⟨rfl, rfl, rfl⟩ rfl rfl rfl restoring.within
      (fun _ bound => bound) restoring.known rfl ?_
    refine .of_waiting unmade' (fun session opened => ?_) (by rw [same]; exact kept) remote
    exact absurd ((opens session opened).symm.trans unmade) (by simp)
  have retried (task : Reconnection) :
      task.retry.session? = none ∧ task.retry.events = task.events := by
    obtain ⟨_ | ⟨delay, delays⟩, events, stage⟩ := task <;> exact ⟨rfl, rfl⟩
  cases stage with
  | snapshot =>
      obtain rfl := Option.some.inj taken
      refine restoring.of_task found _ ⟨rfl, rfl, rfl⟩ rfl rfl rfl restoring.within
        (fun _ bound => bound) (fun session held => absurd held (by simp)) rfl ?_
      refine .of_waiting (retried _).1 (fun session opened => ?_) ?_ rfl
      · exact absurd (opens session opened) (by simp [Reconnection.session?])
      · rw [(retried _).2]
        exact .refl _ _
  | wake =>
      simp only [AuthEventSystem.handleDeath] at taken
      split_ifs at taken with deleted <;> obtain rfl := Option.some.inj taken
      · exact absurd (deleted.symm.trans restoring.kept) (by simp)
      · exact waits rfl (waiting rfl) (mirrors rfl) _ rfl rfl _
  | search =>
      simp only [AuthEventSystem.handleDeath] at taken
      split at taken
      · obtain rfl := Option.some.inj taken
        exact waits rfl (waiting rfl) (mirrors rfl) _ (retried _).1 (retried _).2 _
      · obtain rfl := Option.some.inj taken
        exact waits rfl (waiting rfl) (mirrors rfl) _ (retried _).1 (retried _).2 _
      · split_ifs at taken
        obtain rfl := Option.some.inj taken
        exact waits rfl (waiting rfl) (mirrors rfl) _ rfl rfl _
  | addDeathRecipient object =>
      simp only [AuthEventSystem.handleDeath] at taken
      split_ifs at taken <;> obtain rfl := Option.some.inj taken
      · exact waits rfl (waiting rfl) (mirrors rfl) _ rfl rfl _
      · exact waits rfl (waiting rfl) (mirrors rfl) _ (retried _).1 (retried _).2 _
  | creatAuthEventClient object =>
      simp only [AuthEventSystem.handleDeath] at taken
      split_ifs at taken
      · split at taken
        · obtain rfl := Option.some.inj taken
          exact waits rfl (waiting rfl) (mirrors rfl) _ (retried _).1 (retried _).2 _
        · next session _ =>
          obtain ⟨table, made, rfl⟩ := Option.map_eq_some_iff.mp taken
          -- Of the sessions of this client only the new one is open now.
          obtain ⟨alive, unused, _, rfl⟩ := SessionTable.create?_eq_some.mp made
          refine restoring.of_task found _ ⟨rfl, rfl, rfl⟩ rfl rfl rfl
            (restoring.within.create? (restoring.single.live object alive) made)
            (fun other bound => by simp [bound]) (fun other held => ?_) rfl
            ⟨fun other opened => ?_, fun _ => mirrors rfl, fun _ => waiting rfl, ?_, ?_⟩
          · exact absurd (held.symm.trans (waiting rfl)) (by simp)
          · exact congrArg some (SessionTable.isOpen_of_create? made opened).symm
          · rintro other same
            obtain rfl := Option.some.inj same
            simp
          · rintro other same
            obtain rfl := ReconnectionStage.switchSessionRemote.inj same
            refine ⟨by simp [eventsOf], fun id member eventId present => ?_⟩
            have bound := restoring.called id member eventId session present
            simp [SortedMap.contains, unused] at bound
      · obtain rfl := Option.some.inj taken
        exact waits rfl (waiting rfl) (mirrors rfl) _ (retried _).1 (retried _).2 _
  | switchSessionRemote newSession =>
      simp only [AuthEventSystem.handleDeath] at taken
      split_ifs at taken with deleted <;> obtain rfl := Option.some.inj taken
      · exact absurd (deleted.symm.trans restoring.kept) (by simp)
      · obtain ⟨empty, _⟩ := fresh newSession rfl
        let subscribing : Reconnection := ⟨delays, events, .subscribe newSession events.keys⟩
        refine restoring.of_task found subscribing ⟨rfl, rfl, rfl⟩ rfl rfl rfl restoring.within
          (fun _ bound => bound) (fun other held => ?_) rfl
          ⟨opens, fun _ => ?_,
            fun waits => absurd waits (by simp [Reconnection.waits, subscribing]), created,
            fun session stage => absurd stage (by simp [subscribing])⟩
        · obtain rfl := Option.some.inj held
          exact created newSession rfl
        -- The new session is empty and all events are still to be subscribed.
        · have same : system.target subscribing = events.contains := by
            funext eventId
            rw [target, Bool.eq_iff_iff]
            simp [subscribing, empty, SortedMap.mem_keys_iff]
          exact same.symm ▸ mirrors rfl
  | subscribe session todo =>
      cases todo with
      | nil => exact absurd taken (by simp [AuthEventSystem.handleDeath])
      | cons eventId todo =>
          simp only [AuthEventSystem.handleDeath] at taken
          split_ifs at taken with accepted opened
          · obtain rfl := Option.some.inj taken
            let subscribing : Reconnection := ⟨delays, events, .subscribe session todo⟩
            refine restoring.of_task found subscribing ⟨rfl, rfl, rfl⟩ rfl rfl rfl restoring.within
              (fun _ bound => bound) restoring.known rfl
              ⟨opens, fun _ => ?_,
                fun waits => absurd waits (by simp [Reconnection.waits, subscribing]), created,
                fun session stage => absurd stage (by simp [subscribing])⟩
            -- What the session has gained is no longer to be done, so that the target stays.
            have same : (system.applyAt session true eventId).target subscribing =
                system.target ⟨delays, events, .subscribe session (eventId :: todo)⟩ := by
              funext other
              by_cases here : other = eventId <;>
                simp [target, subscribing, applyAt, eventsOf, here]
            exact same.symm ▸ mirrors rfl
          · exact absurd (answered rfl) accepted
  | finished => exact absurd taken (by simp [AuthEventSystem.handleDeath])

end

theorem Restoring.enter (restoring : system.Restoring) {id : ClientCallId} {member : Bool}
    {eventId : Int} (taken : system.enter id (.update member eventId .readSession) = some after) :
    after.Restoring := by
  rw [AuthEventSystem.enter] at taken
  split_ifs at taken with possible
  obtain rfl := Option.some.inj taken
  have absent : system.calls.get? id = none := by simpa [SortedMap.contains] using possible.2
  refine ⟨restoring.single, restoring.within, restoring.kept, fun other stage present => ?_,
    restoring.made, restoring.known, fun other member' eventId' session present => ?_,
    restoring.closed, fun other task found => ?_⟩
  · rcases SortedMap.get?_insert_eq_some.mp present with ⟨_, same⟩ | ⟨_, before⟩
    · exact absurd same (by simp)
    · exact restoring.updates other stage before
  · rcases SortedMap.get?_insert_eq_some.mp present with ⟨_, same⟩ | ⟨_, before⟩
    · exact absurd same (by simp)
    · exact restoring.called other member' eventId' session before
  · obtain ⟨opens, mirrors, waiting, created, fresh⟩ := restoring.task other task found
    refine ⟨opens, fun way => (mirrors way).mono fun key value pending => ?_, waiting, created,
      fun session stage => ⟨(fresh session stage).1, fun other member' eventId' present => ?_⟩⟩
    · exact (SortedMap.has_insert_of_fresh absent _ _).mpr (.inr pending)
    · rcases SortedMap.get?_insert_eq_some.mp present with ⟨_, same⟩ | ⟨_, before⟩
      · exact absurd same (by simp)
      · exact (fresh session stage).2 other member' eventId' before

/-- A step that contradicts no recovery. -/
theorem Restoring.next (restoring : system.Restoring) {action : AuthEventAction}
    (permitted : system.Premises action ∧ system.Agrees action)
    (taken : AuthEventSystem.next system action = some after) : after.Restoring := by
  obtain ⟨premises, agrees⟩ := permitted
  cases action with
  | serviceStarts object =>
      simp only [AuthEventSystem.next] at taken
      split_ifs at taken with used
      obtain rfl := Option.some.inj taken
      exact restoring.serviceStarts (by simp_all)
  | serviceDies =>
      obtain ⟨object, alive, rfl⟩ := Option.map_eq_some_iff.mp taken
      exact restoring.serviceDies alive premises
  | remoteDied object id promoted =>
      simp only [AuthEventSystem.next] at taken
      split_ifs at taken with noticed
      obtain rfl := Option.some.inj taken
      exact restoring.remoteDied ((Bool.and_eq_true _ _).mp noticed).1
  | creatClient object session =>
      simp only [AuthEventSystem.next] at taken
      split_ifs at taken with start
      obtain ⟨table, created, rfl⟩ := Option.map_eq_some_iff.mp taken
      exact restoring.creatClient start created
  | setDeathRecipient allocated =>
      simp only [AuthEventSystem.next] at taken
      split at taken
      · obtain rfl := Option.some.inj taken
        exact restoring.setDeathRecipient _
      · exact absurd taken (by simp)
      · exact absurd taken (by simp)
  | subscribe id eventId => exact restoring.enter taken
  | unsubscribe id eventId => exact restoring.enter taken
  | deleteClient id => exact premises.elim
  | proceed id answer =>
      obtain ⟨call, found, moved⟩ := Option.bind_eq_some_iff.mp taken
      obtain ⟨result, sectioned, rfl⟩ := Option.map_eq_some_iff.mp moved
      cases call with
      | update member eventId stage =>
          obtain ⟨step, updated, rfl⟩ := Option.map_eq_some_iff.mp sectioned
          exact restoring.update found (agrees _ found) updated
      | release stage => exact absurd found (restoring.updates id stage)
  | reconnect id answer =>
      obtain ⟨task, found, moved⟩ := Option.bind_eq_some_iff.mp taken
      obtain ⟨result, sectioned, rfl⟩ := Option.map_eq_some_iff.mp moved
      exact restoring.handleDeath found (premises task found) sectioned

theorem restored_of_run {actions : List AuthEventAction} {final : AuthEventSystem}
    (permitted : Transition.Along AuthEventSystem.next
      (fun system action => system.Premises action ∧ system.Agrees action) {} actions)
    (reach : Transition.run AuthEventSystem.next {} actions = some final)
    (settled : final.Settled) : final.Restored :=
  (Transition.run_invariant (fun restoring permits taken => restoring.next permits taken)
    restoring_initial permitted reach).restored settled

end AuthEventSystem

end SecurityGuard
