import SecurityGuard.Sdk.EventClient
import SecurityGuard.Sdk.Resubscription

/-!
# What a subscriber is subscribed to after a recovery

The recovery of a subscriber of events works on a snapshot, too, and the calls of the application
reach the session as soon as the recovery has created it.  The same condition on what is recorded
after the snapshot makes the session and the client agree.
-/

namespace SecurityGuard

/-- The call has come to its end. -/
def EventCall.ended (current : EventCall) : Bool :=
  match current.stage with
  | .returned _ => true
  | _ => false

namespace EventReconnection

/-- The task has come to its end. -/
def ended (task : EventReconnection) : Bool :=
  match task.stage with
  | .finished | .addFilter _ [] => true
  | _ => false

/-- The task has taken its snapshot and not given up. -/
def underWay (task : EventReconnection) : Bool :=
  match task.stage with
  | .snapshot | .finished => false
  | _ => true

/-- The task has had the session created. -/
def hasSession (task : EventReconnection) : Bool :=
  match task.stage with
  | .subscribe _ _ | .addFilter _ _ => true
  | _ => false

/-- The task is in the loop over the events. -/
def resubscribes (task : EventReconnection) : Bool :=
  match task.stage with
  | .subscribe _ _ => true
  | _ => false

end EventReconnection

namespace EventSystem

variable (system : EventSystem)

/-- The service has made a change that the client is still to record. -/
def Unrecorded (calls : SortedMap ClientCallId EventCall) (eventId : Int) (member : Bool) : Prop :=
  calls.Has fun current => current = ⟨.update member eventId, .record⟩

instance (calls : SortedMap ClientCallId EventCall) (eventId : Int) (member : Bool) :
    Decidable (Unrecorded calls eventId member) :=
  inferInstanceAs (Decidable (calls.Has _))

/-- Whether the session will have an event once the task has subscribed what is left. -/
def target (task : EventReconnection) (eventId : Int) : Bool :=
  let eventIds := system.session.getD .empty
  match task.stage with
  | .subscribe _ todo => eventIds.contains eventId || decide (eventId ∈ todo)
  | .addFilter _ _ => eventIds.contains eventId
  | _ => task.events.contains eventId

/-- What is recorded differs from what a task will have left, and no other call corrects it. -/
def Contradicts (others : SortedMap ClientCallId EventCall) (member : Bool) (eventId : Int)
    (task : EventReconnection) : Prop :=
  task.underWay = true ∧ system.target task eventId ≠ member ∧
    ¬Unrecorded others eventId (system.target task eventId)

instance (others : SortedMap ClientCallId EventCall) (member : Bool) (eventId : Int)
    (task : EventReconnection) : Decidable (system.Contradicts others member eventId task) :=
  inferInstanceAs (Decidable (_ ∧ _ ∧ _))

/-- What a section records after the snapshot contradicts no task. -/
def AgreesAt (others : SortedMap ClientCallId EventCall) : EventCall → Prop
  | ⟨.update member eventId, .record⟩ =>
      ¬system.reconnections.Has (system.Contradicts others member eventId)
  | _ => True

instance (others : SortedMap ClientCallId EventCall) :
    ∀ current, Decidable (system.AgreesAt others current)
  | ⟨.update _ _, .record⟩ => inferInstanceAs (Decidable (¬_))
  | ⟨.update _ _, .search⟩ | ⟨.update _ _, .callService _⟩ | ⟨.update _ _, .returned _⟩
  | ⟨.mute _ _, _⟩ => inferInstanceAs (Decidable True)

/-- A step leaves the client and the session of the service in agreement. -/
def Agrees : EventAction → Prop
  | .proceed id _ =>
      ∀ current ∈ system.calls.get? id, system.AgreesAt (system.calls.erase id) current
  | _ => True

instance : ∀ action, Decidable (system.Agrees action)
  | .proceed id _ =>
      inferInstanceAs (Decidable
        (∀ current ∈ system.calls.get? id, system.AgreesAt (system.calls.erase id) current))
  | .serviceStarts _ | .serviceDies | .remoteDied _ _ _ | .creatClient _ | .setDeathRecipient _
  | .request _ _ | .reconnect _ _ => inferInstanceAs (Decidable True)

/-- The service dies once, and it subscribes what a recovery asks for. -/
def Premises : EventAction → Prop
  | .serviceDies => system.started.size ≤ 1
  | .reconnect id answer =>
      ∀ task ∈ system.reconnections.get? id, task.resubscribes = true → answer.code = .success
  | _ => True

instance : ∀ action, Decidable (system.Premises action)
  | .serviceDies => inferInstanceAs (Decidable (_ ≤ _))
  | .reconnect id answer =>
      inferInstanceAs
        (Decidable (∀ task ∈ system.reconnections.get? id, _ → answer.code = .success))
  | .serviceStarts _ | .remoteDied _ _ _ | .creatClient _ | .setDeathRecipient _ | .request _ _
  | .proceed _ _ => inferInstanceAs (Decidable True)

/-- A recovery has been started, and everything has come to its end. -/
structure Settled : Prop where
  recovered : 0 < system.reconnections.size
  calls : ¬system.calls.Has fun current => current.ended = false
  reconnections : ¬system.reconnections.Has fun task => task.ended = false

/-- The session of the client has the events that the client has. -/
def Restored : Prop :=
  ∀ eventIds, system.session = some eventIds → eventIds = system.client.subscribedEventIds

/-- What holds while a task is about. -/
structure RestoringAt (task : EventReconnection) : Prop where
  mirrors : task.underWay = true →
    Mirrors system.client.subscribedEventIds.contains (system.target task)
      (Unrecorded system.calls)
  session : system.session.isSome = task.hasSession

/-- What holds while the session of a client is restored. -/
structure Restoring : Prop where
  single : SingleDeath system.service system.started system.notices system.reconnections.size
  made : system.creation ≠ .returned →
    system.notices.size = 0 ∧ system.reconnections.size = 0 ∧
      ∀ object, system.client.deathRecipient.registered.contains object = false
  closed : system.notices.size ≠ 0 → system.session = none
  task : ∀ id task, system.reconnections.get? id = some task → system.RestoringAt task

variable {system} {after : EventSystem}

theorem restoring_initial : Restoring {} where
  single :=
    { live := fun object found => absurd found (by simp), one := by simp, first := by simp }
  made := fun _ => ⟨rfl, rfl, fun object => rfl⟩
  closed := fun noticed => absurd rfl noticed
  task := fun id task found => absurd found (by simp)

/-- When everything has come to its end the session and the client agree. -/
theorem Restoring.restored (restoring : system.Restoring) (settled : system.Settled) :
    system.Restored := by
  intro eventIds kept
  obtain ⟨id, task, found⟩ := SortedMap.exists_of_size_pos settled.recovered
  obtain ⟨mirrors, session⟩ := restoring.task id task found
  have ended : task.ended = true := by
    by_contra going
    exact settled.reconnections ⟨id, task, found, by simpa using going⟩
  rw [kept] at session
  obtain ⟨delays, events, filters, stage⟩ := task
  cases stage with
  | addFilter object todo =>
      have recorded (eventId : Int) (member : Bool) :
          ¬Unrecorded system.calls eventId member := by
        rintro ⟨id, current, present, rfl⟩
        exact settled.calls ⟨id, _, present, rfl⟩
      have same := (mirrors rfl).settled recorded
      apply SortedMap.ext_contains
      intro eventId
      rw [same]
      simp [target, kept]
  | subscribe object todo => exact absurd ended (by simp [EventReconnection.ended])
  | _ => exact absurd session (by simp [EventReconnection.hasSession])

/-- A step that touches no call, no task and neither set. -/
theorem Restoring.of_same (restoring : system.Restoring)
    (single : SingleDeath after.service after.started after.notices after.reconnections.size)
    (made : after.creation ≠ .returned →
      after.notices.size = 0 ∧ after.reconnections.size = 0 ∧
        ∀ object, after.client.deathRecipient.registered.contains object = false)
    (session : after.session = system.session) (notices : after.notices = system.notices)
    (client : after.client.subscribedEventIds = system.client.subscribedEventIds)
    (calls : after.calls = system.calls) (tasks : after.reconnections = system.reconnections) :
    after.Restoring where
  single := single
  made := made
  closed := by
    rw [session, notices]
    exact restoring.closed
  task := by
    rw [tasks]
    intro id task found
    obtain ⟨mirrors, kept⟩ := restoring.task id task found
    have target : after.target task = system.target task := by
      funext eventId
      simp only [EventSystem.target, session]
    refine ⟨?_, ?_⟩
    · rw [client, target, calls]
      exact mirrors
    · rw [session]
      exact kept

theorem Restoring.serviceDies (restoring : system.Restoring) {object : Address}
    (alive : system.service = some object) (once : system.started.size ≤ 1) :
    (system.serviceDies object).Restoring := by
  have first := restoring.single.first (.inr ⟨by simp [alive], once⟩)
  constructor
  · refine restoring.single.dies alive once ?_
    rw [EventSystem.serviceDies]
    dsimp only
    split_ifs
    · exact .inr rfl
    · exact .inl rfl
  · intro unmade
    obtain ⟨notices, tasks, unregistered⟩ := restoring.made unmade
    refine ⟨?_, tasks, unregistered⟩
    simp [EventSystem.serviceDies, unregistered, notices]
  · exact fun _ => rfl
  · intro id task found
    have none : system.reconnections.size = 0 := by omega
    exact absurd found (by simp [EventSystem.serviceDies, SortedMap.get?_eq_none_of_size none])

theorem Restoring.remoteDied (restoring : system.Restoring) {object : Address}
    {id : ReconnectionId} {promoted : Bool} (noticed : system.notices.contains object = true) :
    (system.remoteDied object id promoted).Restoring := by
  have some := SortedMap.size_erase noticed
  obtain ⟨single, none, only⟩ := restoring.single.begins noticed id ({} : EventReconnection)
  constructor
  · exact single
  · intro unmade
    have empty := (restoring.made unmade).1
    omega
  · exact fun left => absurd none left
  · intro other task found
    obtain rfl := only other task found
    refine ⟨fun way => absurd way (by simp [EventReconnection.underWay]), ?_⟩
    have closed := restoring.closed (by omega)
    simp [EventSystem.remoteDied, watched, closed, EventReconnection.hasSession]

theorem Restoring.creatClient (restoring : system.Restoring) {object : Address}
    {created : EventSystem} (start : system.creation = .start)
    (creates : system.create? object = some created) :
    ({ created with creation := .setDeathRecipient object } : EventSystem).Restoring := by
  rw [EventSystem.create?] at creates
  split_ifs at creates
  obtain rfl := Option.some.inj creates
  obtain ⟨notices, tasks, unregistered⟩ := restoring.made (by simp [start])
  refine ⟨restoring.single, fun _ => ⟨notices, tasks, unregistered⟩,
    fun noticed => absurd notices noticed, fun id task found => ?_⟩
  exact absurd found (by simp [SortedMap.get?_eq_none_of_size tasks])

section

variable {id : ClientCallId} {current : EventCall}

theorem unrecorded_insert (next : EventCall) (eventId : Int) (member : Bool) :
    Unrecorded (system.calls.insert id next) eventId member ↔
      next = ⟨.update member eventId, .record⟩ ∨
        Unrecorded (system.calls.erase id) eventId member :=
  SortedMap.has_insert ..

theorem unrecorded_of_get? (found : system.calls.get? id = some current) (eventId : Int)
    (member : Bool) :
    Unrecorded system.calls eventId member ↔
      current = ⟨.update member eventId, .record⟩ ∨
        Unrecorded (system.calls.erase id) eventId member :=
  SortedMap.has_of_get? found _

/-- A call goes on: the tasks and the service are as they were. -/
theorem Restoring.of_call (restoring : system.Restoring)
    (creation : after.creation = system.creation)
    (service : after.service = system.service ∧ after.started = system.started ∧
      after.notices = system.notices)
    (watch : after.client.deathRecipient = system.client.deathRecipient)
    (tasks : after.reconnections = system.reconnections)
    (session : after.session.isSome = system.session.isSome)
    (mirrors : ∀ other task, system.reconnections.get? other = some task →
      task.underWay = true →
        Mirrors after.client.subscribedEventIds.contains (after.target task)
          (Unrecorded after.calls)) : after.Restoring where
  single := by
    rw [service.1, service.2.1, service.2.2, tasks]
    exact restoring.single
  made := by
    rw [creation, service.2.2, tasks, watch]
    exact restoring.made
  closed := by
    rw [service.2.2]
    intro noticed
    rw [← Option.isNone_iff_eq_none, ← Option.not_isSome, session, restoring.closed noticed]
    rfl
  task := by
    rw [tasks]
    intro other task present
    refine ⟨mirrors other task present, ?_⟩
    rw [session]
    exact (restoring.task other task present).session

/-- A change that the session accepts reaches what a task will have left there, unless the task is
still to subscribe the event. -/
theorem target_serve {eventIds : SortedSet Int} (kept : system.session = some eventIds)
    {task : EventReconnection} (has : task.hasSession = true) (member : Bool)
    (eventId other : Int) :
    ({ system with session := some (EventRequest.serve eventIds (.update member eventId)) } :
        EventSystem).target task other = system.target task other ∨
      (other = eventId ∧
        ({ system with session := some (EventRequest.serve eventIds (.update member eventId)) } :
          EventSystem).target task other = member) := by
  obtain ⟨delays, events, filters, stage⟩ := task
  by_cases same : other = eventId
  · cases member with
    | true =>
        refine .inr ⟨same, ?_⟩
        cases stage with
        | subscribe object todo => simp [target, EventRequest.serve, same]
        | addFilter object todo => simp [target, EventRequest.serve, same]
        | _ => exact absurd has (by simp [EventReconnection.hasSession])
    | false =>
        cases stage with
        | subscribe object todo =>
            cases left : decide (other ∈ todo) with
            | true => exact .inl (by simp [target, left])
            | false =>
                refine .inr ⟨same, ?_⟩
                rw [target]
                simp only [left]
                simp [EventRequest.serve, same]
        | addFilter object todo => exact .inr ⟨same, by simp [target, EventRequest.serve, same]⟩
        | _ => exact absurd has (by simp [EventReconnection.hasSession])
  · refine .inl ?_
    cases member <;> cases stage <;> simp [target, EventRequest.serve, same, kept]

/-- What is recorded of one event. -/
theorem contains_record (member : Bool) (eventId : Int) :
    ((EventRequest.update member eventId).record system.client).subscribedEventIds.contains =
      Function.update system.client.subscribedEventIds.contains eventId member := by
  funext other
  by_cases same : other = eventId
  · subst same
    cases member <;> simp [EventRequest.record]
  · cases member <;> simp [EventRequest.record, same]

theorem Restoring.call (restoring : system.Restoring)
    (found : system.calls.get? id = some current)
    (agrees : system.AgreesAt (system.calls.erase id) current) {answer : EventAnswer}
    {result : EventCallStage × EventSystem} (taken : system.call current answer = some result) :
    EventSystem.Restoring
      { result.2 with calls := system.calls.insert id { current with stage := result.1 } } := by
  obtain ⟨request, stage⟩ := current
  -- what the others are still to record stays to be recorded
  have others (unrecorded : ∀ member eventId, (⟨request, stage⟩ : EventCall) ≠
      ⟨.update member eventId, .record⟩) (next : EventCall) (key : Int) (value : Bool)
      (pending : Unrecorded system.calls key value) :
      Unrecorded (system.calls.insert id next) key value := by
    rcases (unrecorded_of_get? found key value).mp pending with own | others
    · exact absurd own (unrecorded value key)
    · exact (unrecorded_insert ..).mpr (.inr others)
  have quiet (unrecorded : ∀ member eventId, (⟨request, stage⟩ : EventCall) ≠
      ⟨.update member eventId, .record⟩) (next : EventCallStage) :
      EventSystem.Restoring
        { system with calls := system.calls.insert id ⟨request, next⟩ } :=
    restoring.of_call rfl ⟨rfl, rfl, rfl⟩ rfl rfl rfl fun other task present way =>
      ((restoring.task other task present).mirrors way).mono (others unrecorded _)
  cases stage with
  | search =>
      simp only [EventSystem.call] at taken
      split at taken
      · obtain rfl := Option.some.inj taken
        exact quiet (by simp) _
      · obtain rfl := Option.some.inj taken
        exact quiet (by simp) _
      · split_ifs at taken
        obtain rfl := Option.some.inj taken
        exact quiet (by simp) _
  | callService object =>
      simp only [EventSystem.call] at taken
      split_ifs at taken
      · obtain ⟨served, serves, rfl⟩ := Option.map_eq_some_iff.mp taken
        rw [EventSystem.serve?] at serves
        split at serves
        · exact absurd serves (by simp)
        · next eventIds kept =>
          split_ifs at serves
          obtain rfl := Option.some.inj serves
          cases request with
          | mute added filter =>
              have same : ({ system with session := some eventIds } : EventSystem) = system := by
                rw [← kept]
              have still := quiet (by simp) .record
              rw [← same] at still
              exact still
          | update member eventId =>
              refine restoring.of_call rfl ⟨rfl, rfl, rfl⟩ rfl rfl (by simp [kept])
                fun other task present way => ?_
              obtain ⟨mirrors, session⟩ := restoring.task other task present
              have has : task.hasSession = true := by rw [← session, kept]; rfl
              exact (mirrors way).accept (target_serve kept has member eventId)
                (others (by simp) _) ((unrecorded_insert ..).mpr (.inl rfl))
      · obtain rfl := Option.some.inj taken
        exact quiet (by simp) _
  | record =>
      obtain rfl := Option.some.inj taken
      cases request with
      | mute added filter =>
          refine restoring.of_call rfl ⟨rfl, rfl, rfl⟩ ?_ rfl rfl fun other task present way => ?_
          · cases added <;> rfl
          · have mirrors := ((restoring.task other task present).mirrors way).mono
              (others (by simp) ⟨.mute added filter, .returned .success⟩)
            cases added <;> exact mirrors
      | update member eventId =>
          refine restoring.of_call rfl ⟨rfl, rfl, rfl⟩ ?_ rfl rfl fun other task present way => ?_
          · cases member <;> rfl
          · dsimp only
            rw [contains_record]
            refine ((restoring.task other task present).mirrors way).record ?_
              fun key value pending => ?_
            · by_contra contradicted
              obtain ⟨different, unsettled⟩ := not_or.mp contradicted
              refine agrees ⟨other, task, present, way, different, fun corrected => unsettled ?_⟩
              exact (unrecorded_insert ..).mpr (.inr corrected)
            · rcases (unrecorded_of_get? found key value).mp pending with own | others
              · obtain ⟨rfl, rfl⟩ := EventRequest.update.inj (EventCall.mk.inj own).1
                exact .inr ⟨rfl, rfl⟩
              · exact .inl ((unrecorded_insert ..).mpr (.inr others))
  | returned code => exact absurd taken (by simp [EventSystem.call])

end

/-! ## Recoveries -/

section

variable {id : ReconnectionId} {current : EventReconnection}

/-- The task goes on, and there is no other. -/
theorem Restoring.of_task (restoring : system.Restoring)
    (found : system.reconnections.get? id = some current) (next : EventReconnection)
    (service : after.service = system.service ∧ after.started = system.started ∧
      after.notices = system.notices)
    (creation : after.creation = system.creation)
    (tasks : after.reconnections = system.reconnections.insert id next)
    (goesOn : after.RestoringAt next) : after.Restoring := by
  obtain ⟨single, none, only⟩ := restoring.single.goesOn found next
  refine ⟨?_, fun unmade => ?_, fun noticed => ?_, fun other task present => ?_⟩
  · rw [service.1, service.2.1, service.2.2, tasks]
    exact single
  · have gone := (restoring.made (creation ▸ unmade)).2.1
    exact absurd found (by simp [SortedMap.get?_eq_none_of_size gone])
  · rw [service.2.2] at noticed
    exact absurd none noticed
  · rw [tasks] at present
    obtain rfl := only other task present
    exact goesOn

theorem target_of_waiting {task : EventReconnection} (waits : task.hasSession = false) :
    system.target task = task.events.contains := by
  obtain ⟨delays, events, filters, stage⟩ := task
  cases stage with
  | subscribe object todo => exact absurd waits (by simp [EventReconnection.hasSession])
  | addFilter object todo => exact absurd waits (by simp [EventReconnection.hasSession])
  | _ => rfl

theorem Restoring.handleDeath (restoring : system.Restoring)
    (found : system.reconnections.get? id = some current) {answer : EventAnswer}
    (answered : current.resubscribes = true → answer.code = .success)
    {result : EventReconnection × EventSystem}
    (taken : system.handleDeath current answer = some result) :
    EventSystem.Restoring
      { result.2 with reconnections := system.reconnections.insert id result.1 } := by
  obtain ⟨mirrors, session⟩ := restoring.task id current found
  obtain ⟨delays, events, filters, stage⟩ := current
  -- a section that waits for a session before it and afterwards
  have waits (unmade : EventReconnection.hasSession ⟨delays, events, filters, stage⟩ = false)
      (kept : Mirrors system.client.subscribedEventIds.contains events.contains
        (Unrecorded system.calls)) (next : EventReconnection) (unmade' : next.hasSession = false)
      (same : next.events = events) (watch : DeathWatch) :
      EventSystem.Restoring
        { system.watched watch with
          reconnections := system.reconnections.insert id next } := by
    refine restoring.of_task found next ⟨rfl, rfl, rfl⟩ rfl rfl ⟨fun _ => ?_, ?_⟩
    · rw [target_of_waiting unmade', same]
      exact kept
    · exact session.trans (unmade.trans unmade'.symm)
  have retried (task : EventReconnection) :
      task.retry.hasSession = false ∧ task.retry.events = task.events := by
    obtain ⟨_ | ⟨delay, delays⟩, events, filters, stage⟩ := task <;> exact ⟨rfl, rfl⟩
  -- a section that has a session before it and afterwards
  have serves (next : EventReconnection) (later : EventSystem)
      (same : later.session.isSome = next.hasSession)
      (target : later.target next = system.target ⟨delays, events, filters, stage⟩)
      (way : EventReconnection.underWay ⟨delays, events, filters, stage⟩ = true)
      (client : later.client = system.client) (calls : later.calls = system.calls)
      (service : later.service = system.service ∧ later.started = system.started ∧
        later.notices = system.notices) (creation : later.creation = system.creation) :
      EventSystem.Restoring
        { later with reconnections := system.reconnections.insert id next } := by
    refine restoring.of_task found next service creation rfl ⟨fun _ => ?_, same⟩
    have kept := mirrors way
    rw [← target, ← client, ← calls] at kept
    exact kept
  cases stage with
  | snapshot =>
      obtain rfl := Option.some.inj taken
      refine restoring.of_task found _ ⟨rfl, rfl, rfl⟩ rfl rfl ⟨fun _ => ?_, ?_⟩
      · rw [target_of_waiting (retried _).1, (retried _).2]
        exact .refl _ _
      · exact session.trans (retried _).1.symm
  | wake =>
      obtain rfl := Option.some.inj taken
      exact waits rfl (mirrors rfl) _ rfl rfl system.client.deathRecipient
  | search =>
      have again := waits rfl (mirrors rfl) _ (retried ⟨delays, events, filters, .search⟩).1
        (retried _).2 system.client.deathRecipient
      simp only [EventSystem.handleDeath] at taken
      split at taken
      · obtain rfl := Option.some.inj taken
        exact again
      · obtain rfl := Option.some.inj taken
        exact again
      · split_ifs at taken
        obtain rfl := Option.some.inj taken
        exact waits rfl (mirrors rfl) _ rfl rfl system.client.deathRecipient
  | addDeathRecipient object =>
      simp only [EventSystem.handleDeath] at taken
      split_ifs at taken <;> obtain rfl := Option.some.inj taken
      · exact waits rfl (mirrors rfl) _ rfl rfl _
      · exact waits rfl (mirrors rfl) _ (retried _).1 (retried _).2 system.client.deathRecipient
  | creatClient object =>
      simp only [EventSystem.handleDeath] at taken
      split_ifs at taken
      · obtain ⟨created, creates, rfl⟩ := Option.map_eq_some_iff.mp taken
        rw [EventSystem.create?] at creates
        split_ifs at creates
        obtain rfl := Option.some.inj creates
        refine serves _ _ rfl ?_ rfl rfl rfl ⟨rfl, rfl, rfl⟩ rfl
        funext eventId
        rw [Bool.eq_iff_iff]
        simp [target, EventReconnection.moveTo, SortedMap.mem_keys_iff]
      · obtain rfl := Option.some.inj taken
        exact waits rfl (mirrors rfl) _ (retried _).1 (retried _).2 system.client.deathRecipient
  | subscribe object todo =>
      cases todo with
      | nil =>
          obtain rfl := Option.some.inj taken
          refine serves _ system session ?_ rfl rfl rfl ⟨rfl, rfl, rfl⟩ rfl
          funext eventId
          simp [target, EventReconnection.moveTo]
      | cons eventId todo =>
          simp only [EventSystem.handleDeath] at taken
          split_ifs at taken with accepted
          · obtain ⟨served, subscribes, rfl⟩ := Option.map_eq_some_iff.mp taken
            rw [EventSystem.serve?] at subscribes
            split at subscribes
            · exact absurd subscribes (by simp)
            · next eventIds kept =>
              split_ifs at subscribes
              obtain rfl := Option.some.inj subscribes
              refine serves _ _ rfl ?_ rfl rfl rfl ⟨rfl, rfl, rfl⟩ rfl
              funext other
              by_cases here : other = eventId <;>
                simp [target, EventReconnection.moveTo, EventRequest.serve, kept, here]
          · exact absurd (answered rfl) accepted
  | addFilter object todo =>
      cases todo with
      | nil => exact absurd taken (by simp [EventSystem.handleDeath])
      | cons filter todo =>
          simp only [EventSystem.handleDeath] at taken
          split_ifs at taken
          · obtain ⟨served, mutes, rfl⟩ := Option.map_eq_some_iff.mp taken
            rw [EventSystem.serve?] at mutes
            split at mutes
            · exact absurd mutes (by simp)
            · next eventIds kept =>
              split_ifs at mutes
              obtain rfl := Option.some.inj mutes
              refine serves _ _ rfl ?_ rfl rfl rfl ⟨rfl, rfl, rfl⟩ rfl
              funext other
              simp [target, EventReconnection.moveTo, EventRequest.serve, kept]
          · obtain rfl := Option.some.inj taken
            exact serves _ system session rfl rfl rfl rfl ⟨rfl, rfl, rfl⟩ rfl
  | finished => exact absurd taken (by simp [EventSystem.handleDeath])

end

theorem Restoring.request (restoring : system.Restoring) {id : ClientCallId}
    {request : EventRequest} (fresh : system.calls.contains id = false) :
    ({ system with calls := system.calls.insert id { request } } : EventSystem).Restoring := by
  have absent : system.calls.get? id = none := by simpa [SortedMap.contains] using fresh
  refine restoring.of_call rfl ⟨rfl, rfl, rfl⟩ rfl rfl rfl fun other task present way => ?_
  refine ((restoring.task other task present).mirrors way).mono fun key value pending => ?_
  exact (SortedMap.has_insert_of_fresh absent _ _).mpr (.inr pending)

/-- A step that contradicts no recovery. -/
theorem Restoring.next (restoring : system.Restoring) {action : EventAction}
    (permitted : system.Premises action ∧ system.Agrees action)
    (taken : EventSystem.next system action = some after) : after.Restoring := by
  obtain ⟨premises, agrees⟩ := permitted
  cases action with
  | serviceStarts object =>
      simp only [EventSystem.next] at taken
      split_ifs at taken with used
      obtain rfl := Option.some.inj taken
      have fresh : system.started.contains object = false := by simp_all
      exact restoring.of_same (restoring.single.starts fresh) restoring.made rfl rfl rfl rfl rfl
  | serviceDies =>
      obtain ⟨object, alive, rfl⟩ := Option.map_eq_some_iff.mp taken
      exact restoring.serviceDies alive premises
  | remoteDied object id promoted =>
      simp only [EventSystem.next] at taken
      split_ifs at taken with noticed
      obtain rfl := Option.some.inj taken
      exact restoring.remoteDied ((Bool.and_eq_true _ _).mp noticed).1
  | creatClient object =>
      simp only [EventSystem.next] at taken
      split_ifs at taken with start
      obtain ⟨created, creates, rfl⟩ := Option.map_eq_some_iff.mp taken
      exact restoring.creatClient start creates
  | setDeathRecipient allocated =>
      simp only [EventSystem.next] at taken
      split at taken
      · obtain rfl := Option.some.inj taken
        exact restoring.of_same restoring.single (fun unmade => absurd rfl unmade) rfl rfl rfl rfl
          rfl
      · exact absurd taken (by simp)
      · exact absurd taken (by simp)
  | request id request =>
      simp only [EventSystem.next] at taken
      split_ifs at taken with possible
      obtain rfl := Option.some.inj taken
      exact restoring.request possible.2
  | proceed id answer =>
      obtain ⟨current, found, moved⟩ := Option.bind_eq_some_iff.mp taken
      obtain ⟨result, sectioned, rfl⟩ := Option.map_eq_some_iff.mp moved
      exact restoring.call found (agrees current found) sectioned
  | reconnect id answer =>
      obtain ⟨task, found, moved⟩ := Option.bind_eq_some_iff.mp taken
      obtain ⟨result, sectioned, rfl⟩ := Option.map_eq_some_iff.mp moved
      exact restoring.handleDeath found (premises task found) sectioned

theorem restored_of_run {actions : List EventAction} {final : EventSystem}
    (permitted : Transition.Along EventSystem.next
      (fun system action => system.Premises action ∧ system.Agrees action) {} actions)
    (reach : Transition.run EventSystem.next {} actions = some final)
    (settled : final.Settled) : final.Restored :=
  (Transition.run_invariant (fun restoring permits taken => restoring.next permits taken)
    restoring_initial permitted reach).restored settled

end EventSystem

/-- For both classes: after one death of the service, and once the calls and the recovery have come
to their end, the session has the events of the client, if nothing that was recorded after the
snapshot contradicts the recovery. -/
theorem subscriptions_restored_of_agrees (auth : List AuthEventAction)
    (other : List EventAction) :
    (∀ final,
      Transition.Along AuthEventSystem.next
          (fun system action => system.Premises action ∧ system.Agrees action) {} auth →
        Transition.run AuthEventSystem.next {} auth = some final → final.Settled →
          final.Restored) ∧
    ∀ final,
      Transition.Along EventSystem.next
          (fun system action => system.Premises action ∧ system.Agrees action) {} other →
        Transition.run EventSystem.next {} other = some final → final.Settled →
          final.Restored :=
  ⟨fun _ permitted reach settled => AuthEventSystem.restored_of_run permitted reach settled,
    fun _ permitted reach settled => EventSystem.restored_of_run permitted reach settled⟩

namespace AuthEventSystem

/-- A client is made and subscribes an event. -/
def subscribes : List AuthEventAction :=
  [.serviceStarts 1, .creatClient 1 50, .setDeathRecipient true, .subscribe 1 7, .proceed 1 {},
    .proceed 1 {}, .proceed 1 {}]

/-- The service dies and starts again, and the client gets a new session. -/
def reconnects : List AuthEventAction :=
  [.serviceDies, .remoteDied 1 1 true, .reconnect 1 {}, .serviceStarts 2, .reconnect 1 {},
    .reconnect 1 { search := .proxy 2 }, .reconnect 1 {}, .reconnect 1 { newSession := some 51 },
    .reconnect 1 {}]

end AuthEventSystem

namespace EventSystem

/-- A client is made and subscribes an event. -/
def subscribes : List EventAction :=
  [.serviceStarts 1, .creatClient 1, .setDeathRecipient true, .request 1 (.update true 7),
    .proceed 1 { search := .proxy 1 }, .proceed 1 {}, .proceed 1 {}]

/-- The service dies, and the recovery takes its snapshot. -/
def dies : List EventAction := [.serviceDies, .remoteDied 1 1 true, .reconnect 1 {}]

/-- The service starts again, and the recovery subscribes the event. -/
def reconnects : List EventAction :=
  [.serviceStarts 2, .reconnect 1 {}, .reconnect 1 { search := .proxy 2 }, .reconnect 1 {},
    .reconnect 1 {}, .reconnect 1 {}, .reconnect 1 {}]

end EventSystem

/-- A second event is subscribed in the new session before the recovery subscribes the first, or
recorded before the recovery takes its snapshot. -/
theorem subscriptions_restored_of_two :
    let auth := (Transition.run AuthEventSystem.next {}
      (AuthEventSystem.subscribes ++ AuthEventSystem.reconnects ++
        [.subscribe 2 9, .proceed 2 {}, .proceed 2 {}, .reconnect 1 {}, .proceed 2 {}])).getD {}
    let other := (Transition.run EventSystem.next {}
      (EventSystem.subscribes ++ [.request 2 (.update true 9), .proceed 2 { search := .proxy 1 },
        .proceed 2 {}, .serviceDies, .remoteDied 1 1 true, .proceed 2 {}, .reconnect 1 {}] ++
        EventSystem.reconnects ++ [.reconnect 1 {}])).getD {}
    auth.Restored ∧ auth.client.subscribedEventIds.keys = [7, 9] ∧
      other.Restored ∧ other.client.subscribedEventIds.keys = [7, 9] := by
  refine ⟨?_, by decide +kernel, ?_, by decide +kernel⟩
  · exact (subscriptions_restored_of_agrees _ []).1 _ (by decide +kernel)
      (Transition.run_eq_getD (by decide +kernel))
      ⟨by decide +kernel, by decide +kernel, by decide +kernel⟩
  · exact (subscriptions_restored_of_agrees [] _).2 _ (by decide +kernel)
      (Transition.run_eq_getD (by decide +kernel))
      ⟨by decide +kernel, by decide +kernel, by decide +kernel⟩

/-- An event that is unsubscribed in the new session, before the recovery subscribes it there, comes
back; one that is subscribed before the death, and recorded after the snapshot, is lost. -/
theorem subscriptions_not_restored :
    ∃ auth other,
      Transition.Along AuthEventSystem.next AuthEventSystem.Premises {}
          (AuthEventSystem.subscribes ++ AuthEventSystem.reconnects ++
            [.unsubscribe 2 7, .proceed 2 {}, .proceed 2 {}, .proceed 2 {}, .reconnect 1 {}]) ∧
        Transition.run AuthEventSystem.next {}
            (AuthEventSystem.subscribes ++ AuthEventSystem.reconnects ++
              [.unsubscribe 2 7, .proceed 2 {}, .proceed 2 {}, .proceed 2 {}, .reconnect 1 {}]) =
            some auth ∧
          auth.Settled ∧ (auth.eventsOf 51).keys = [7] ∧
            auth.client.subscribedEventIds.keys = [] ∧ ¬auth.Restored ∧
      Transition.Along EventSystem.next EventSystem.Premises {}
          (EventSystem.subscribes ++ [.request 2 (.update true 9),
            .proceed 2 { search := .proxy 1 }, .proceed 2 {}] ++ EventSystem.dies ++
            [.proceed 2 {}] ++ EventSystem.reconnects) ∧
        Transition.run EventSystem.next {}
            (EventSystem.subscribes ++ [.request 2 (.update true 9),
              .proceed 2 { search := .proxy 1 }, .proceed 2 {}] ++ EventSystem.dies ++
              [.proceed 2 {}] ++ EventSystem.reconnects) = some other ∧
          other.Settled ∧ (other.session.getD .empty).keys = [7] ∧
            other.client.subscribedEventIds.keys = [7, 9] ∧ ¬other.Restored := by
  let auth := (Transition.run AuthEventSystem.next {}
    (AuthEventSystem.subscribes ++ AuthEventSystem.reconnects ++
      [.unsubscribe 2 7, .proceed 2 {}, .proceed 2 {}, .proceed 2 {}, .reconnect 1 {}])).getD {}
  let other := (Transition.run EventSystem.next {}
    (EventSystem.subscribes ++ [.request 2 (.update true 9), .proceed 2 { search := .proxy 1 },
      .proceed 2 {}] ++ EventSystem.dies ++ [.proceed 2 {}] ++ EventSystem.reconnects)).getD {}
  have resurrected : (auth.eventsOf 51).keys = [7] := by decide +kernel
  have unsubscribed : auth.client.subscribedEventIds.keys = [] := by decide +kernel
  have lost : (other.session.getD .empty).keys = [7] := by decide +kernel
  have subscribed : other.client.subscribedEventIds.keys = [7, 9] := by decide +kernel
  refine ⟨auth, other, by decide +kernel, Transition.run_eq_getD (by decide +kernel),
    ⟨by decide +kernel, by decide +kernel, by decide +kernel⟩, resurrected, unsubscribed,
    fun restored => ?_, by decide +kernel, Transition.run_eq_getD (by decide +kernel),
    ⟨by decide +kernel, by decide +kernel, by decide +kernel⟩, lost, subscribed,
    fun restored => ?_⟩
  · have same := restored 51 (by decide +kernel)
    rw [same, unsubscribed] at resurrected
    exact absurd resurrected (by simp)
  · cases kept : other.session with
    | none =>
        rw [kept] at lost
        exact absurd lost (by decide)
    | some eventIds =>
        rw [kept, Option.getD_some, restored eventIds kept, subscribed] at lost
        exact absurd lost (by simp)

end SecurityGuard
