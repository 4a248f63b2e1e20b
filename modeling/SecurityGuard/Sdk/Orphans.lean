import SecurityGuard.Sdk.AuthEventClient

/-!
# Sessions that nobody destroys

A session is in somebody's hands from its creation on: the client holds it, a recovery is about to
hand it over, or a release is about to destroy it.  Once everything has finished no hand is left,
so a session that is still open was dropped on the way.
-/

namespace SecurityGuard

/-- The session that a call has taken from the client to destroy it. -/
def AuthEventCall.taken? : AuthEventCall → Option Address
  | .release (.destroy session) => session
  | _ => none

/-- The new session that a task has not handed over. -/
def Reconnection.carried? (task : Reconnection) : Option Address :=
  match task.stage with
  | .switchSessionRemote session => some session
  | _ => none

/-- A release that has not come to its end. -/
def AuthEventCall.releases : AuthEventCall → Bool
  | .release .returned | .update _ _ _ => false
  | .release _ => true

/-- The task has come to its end. -/
def Reconnection.ended (task : Reconnection) : Bool :=
  match task.stage with
  | .finished | .subscribe _ [] => true
  | _ => false

theorem Reconnection.carried?_of_ended {task : Reconnection} (ended : task.ended = true) :
    task.carried? = none := by
  obtain ⟨delays, events, stage⟩ := task
  cases stage with
  | switchSessionRemote session => exact absurd ended (by simp [Reconnection.ended])
  | _ => rfl

namespace AuthEventSystem

/-- The session is in somebody's hands. -/
def Holds (system : AuthEventSystem) (session : Address) : Prop :=
  system.client.sessionRemote = some session ∨
    system.calls.Has (fun call => call.taken? = some session) ∨
      system.reconnections.Has fun task => task.carried? = some session

/-- The client holds no session that is open. -/
def Spent (system : AuthEventSystem) : Prop :=
  ∀ session ∈ system.client.sessionRemote, system.table.isOpen system.service session = false

instance (system : AuthEventSystem) : Decidable system.Spent :=
  inferInstanceAs (Decidable (∀ session ∈ system.client.sessionRemote, _))

/-- A section of a recovery empties or replaces the session of the client only when that is no
longer open. -/
def DropsNoneAt (system : AuthEventSystem) : ReconnectionStage → Prop
  | .snapshot => system.Spent
  | .switchSessionRemote _ => system.client.deleted = true ∨ system.Spent
  | _ => True

instance (system : AuthEventSystem) : ∀ stage, Decidable (system.DropsNoneAt stage)
  | .snapshot => inferInstanceAs (Decidable system.Spent)
  | .switchSessionRemote _ => inferInstanceAs (Decidable (_ ∨ system.Spent))
  | .wake | .search | .addDeathRecipient _ | .creatAuthEventClient _ | .subscribe _ _
  | .finished => inferInstanceAs (Decidable True)

/-- A step drops no session that nobody else holds. -/
def DropsNone (system : AuthEventSystem) : AuthEventAction → Prop
  | .reconnect id _ => ∀ task ∈ system.reconnections.get? id, system.DropsNoneAt task.stage
  | _ => True

instance (system : AuthEventSystem) : ∀ action, Decidable (system.DropsNone action)
  | .reconnect id _ =>
      inferInstanceAs (Decidable (∀ task ∈ system.reconnections.get? id,
        system.DropsNoneAt task.stage))
  | .serviceStarts _ | .serviceDies | .remoteDied _ _ _ | .creatClient _ _ | .setDeathRecipient _
  | .subscribe _ _ | .unsubscribe _ _ | .deleteClient _ | .proceed _ _ =>
      inferInstanceAs (Decidable True)

/-- The client has been released, and every release and recovery has come to its end. -/
structure Finished (system : AuthEventSystem) : Prop where
  released : system.client.deleted = true
  releases : ¬system.calls.Has fun call => call.releases = true
  reconnections : ¬system.reconnections.Has fun task => task.ended = false

/-- What every step keeps. -/
structure Kept (system : AuthEventSystem) : Prop where
  held : ∀ session, system.table.isOpen system.service session = true → system.Holds session
  live : ∀ object, system.service = some object → system.started.contains object = true
  within : system.table.Within system.started
  deleted : system.client.deleted = true → system.client.sessionRemote = none
  unmade : system.creation ≠ .returned →
    system.calls = .empty ∧ system.client.deleted = false

variable {system after : AuthEventSystem}

theorem kept_initial : Kept {} where
  held := fun session found => absurd found (by simp [SessionTable.isOpen])
  live := fun object found => absurd found (by simp)
  within := fun session object found => absurd found (by simp)
  deleted := fun deleted => absurd deleted (by simp)
  unmade := fun _ => ⟨rfl, rfl⟩

/-- Once everything has finished nobody holds a session. -/
theorem Kept.allDestroyed (kept : system.Kept) (finished : system.Finished) :
    system.table.AllDestroyed system.service := by
  refine .of_closed fun session opened => ?_
  rcases kept.held session opened with
    held | ⟨id, call, present, taken⟩ | ⟨id, task, present, carried⟩
  · exact absurd (held.symm.trans (kept.deleted finished.released)) (by simp)
  · refine finished.releases ⟨id, call, present, ?_⟩
    cases call with
    | update member eventId stage => exact absurd taken (by simp [AuthEventCall.taken?])
    | release stage =>
        cases stage with
        | destroy session? => rfl
        | _ => exact absurd taken (by simp [AuthEventCall.taken?])
  · refine finished.reconnections ⟨id, task, present, ?_⟩
    by_contra ended
    exact absurd carried (by simp [Reconnection.carried?_of_ended (by simpa using ended)])

/-- A step that drops no session, with the service and its sessions as they were. -/
theorem Kept.of_same (kept : system.Kept) (service : after.service = system.service)
    (started : after.started = system.started) (table : after.table = system.table)
    (holds : ∀ session, system.Holds session → after.Holds session)
    (deleted : after.client.deleted = true → after.client.sessionRemote = none)
    (unmade : after.creation ≠ .returned → after.calls = .empty ∧ after.client.deleted = false) :
    after.Kept where
  held := by
    rw [service, table]
    exact fun session found => holds session (kept.held session found)
  live := by
    rw [service, started]
    exact kept.live
  within := by
    rw [table, started]
    exact kept.within
  deleted := deleted
  unmade := unmade

theorem Kept.made (kept : system.Kept) {id : ClientCallId} {call : AuthEventCall}
    (found : system.calls.get? id = some call) : system.creation = .returned := by
  by_contra unmade
  rw [(kept.unmade unmade).1] at found
  exact absurd found (by simp)

section

variable {id : ClientCallId} {ongoing : AuthEventCall}

/-- A call goes on, and what the others hold stays held. -/
theorem Holds.call {session : Address} (holds : system.Holds session)
    (found : system.calls.get? id = some ongoing) (untaken : ongoing.taken? ≠ some session)
    (next : AuthEventCall) {later : AuthEventSystem}
    (remote : system.client.sessionRemote = some session →
      later.client.sessionRemote = some session ∨ next.taken? = some session)
    (tasks : later.reconnections = system.reconnections) :
    AuthEventSystem.Holds { later with calls := system.calls.insert id next } session := by
  rcases holds with held | pending | carried
  · rcases remote held with kept | taken
    · exact .inl kept
    · exact .inr (.inl ((SortedMap.has_insert ..).mpr (.inl taken)))
  · rw [SortedMap.has_of_get? found] at pending
    rcases pending with own | others
    · exact absurd own untaken
    · exact .inr (.inl ((SortedMap.has_insert ..).mpr (.inr others)))
  · exact .inr (.inr (tasks ▸ carried))

theorem Kept.update (kept : system.Kept) {member : Bool} {eventId : Int} {stage : UpdateStage}
    (found : system.calls.get? id = some (.update member eventId stage))
    {answer : AuthEventAnswer} {result : UpdateStage × AuthEventSystem}
    (taken : system.update member eventId answer stage = some result) :
    AuthEventSystem.Kept
      { result.2 with
        calls := system.calls.insert id (.update member eventId result.1) } := by
  have made := kept.made found
  have same (later : AuthEventSystem) (service : later.service = system.service)
      (started : later.started = system.started) (table : later.table = system.table)
      (creation : later.creation = system.creation)
      (remote : later.client.sessionRemote = system.client.sessionRemote)
      (deleted : later.client.deleted = system.client.deleted)
      (tasks : later.reconnections = system.reconnections) (next : UpdateStage) :
      AuthEventSystem.Kept
        { later with calls := system.calls.insert id (.update member eventId next) } := by
    refine kept.of_same service started table (fun session holds => ?_) ?_ ?_
    · exact holds.call found (by simp [AuthEventCall.taken?]) _
        (fun held => .inl (remote.trans held)) tasks
    · dsimp only
      rw [deleted, remote]
      exact kept.deleted
    · exact fun unmade => absurd (creation.trans made) unmade
  cases stage with
  | readSession =>
      rw [AuthEventSystem.update] at taken
      split_ifs at taken
      · obtain rfl := Option.some.inj taken
        exact same system rfl rfl rfl rfl rfl rfl rfl _
      · split at taken <;> obtain rfl := Option.some.inj taken <;>
          exact same system rfl rfl rfl rfl rfl rfl rfl _
  | callSession session =>
      rw [AuthEventSystem.update] at taken
      split_ifs at taken <;> obtain rfl := Option.some.inj taken
      · exact same (system.applyAt session member eventId) rfl rfl rfl rfl rfl rfl rfl _
      · exact same system rfl rfl rfl rfl rfl rfl rfl _
  | record =>
      obtain rfl := Option.some.inj taken
      exact same (system.recordEvent member eventId) rfl rfl rfl rfl rfl rfl rfl _
  | returned code => exact absurd taken (by simp [AuthEventSystem.update])

theorem Kept.release (kept : system.Kept) {stage : ReleaseStage}
    (found : system.calls.get? id = some (.release stage))
    {result : ReleaseStage × AuthEventSystem} (taken : system.release stage = some result) :
    AuthEventSystem.Kept
      { result.2 with calls := system.calls.insert id (.release result.1) } := by
  have made := kept.made found
  cases stage with
  | takeSession =>
      obtain rfl := Option.some.inj taken
      refine kept.of_same rfl rfl rfl (fun session holds => ?_) (fun _ => rfl)
        fun unmade => absurd made unmade
      exact holds.call found (by simp [AuthEventCall.taken?]) _ .inr rfl
  | destroy session? =>
      cases session? with
      | none =>
          obtain rfl := Option.some.inj taken
          refine kept.of_same rfl rfl rfl (fun session holds => ?_) kept.deleted
            fun unmade => absurd made unmade
          exact holds.call found (by simp [AuthEventCall.taken?]) _ .inl rfl
      | some gone =>
          obtain rfl := Option.some.inj taken
          refine ⟨fun session opened => ?_, kept.live, kept.within.destroy _ _, kept.deleted,
            fun unmade => absurd made unmade⟩
          obtain ⟨other, before⟩ := SessionTable.isOpen_destroy.mp opened
          refine (kept.held session before).call found ?_ _ .inl rfl
          exact fun own => other (Option.some.inj own).symm
  | removeDeathRecipient =>
      rw [AuthEventSystem.release] at taken
      split at taken <;>
        · obtain rfl := Option.some.inj taken
          refine kept.of_same rfl rfl rfl (fun session holds => ?_) kept.deleted
            fun unmade => absurd made unmade
          exact holds.call found (by simp [AuthEventCall.taken?]) _ .inl rfl
  | returned => exact absurd taken (by simp [AuthEventSystem.release])

theorem Kept.call (kept : system.Kept) (found : system.calls.get? id = some ongoing)
    {answer : AuthEventAnswer} {result : AuthEventCall × AuthEventSystem}
    (taken : system.call answer ongoing = some result) :
    AuthEventSystem.Kept { result.2 with calls := system.calls.insert id result.1 } := by
  cases ongoing with
  | update member eventId stage =>
      obtain ⟨step, updated, rfl⟩ := Option.map_eq_some_iff.mp taken
      exact kept.update found updated
  | release stage =>
      obtain ⟨step, released, rfl⟩ := Option.map_eq_some_iff.mp taken
      exact kept.release found released

end

section

variable {id : ReconnectionId} {current : Reconnection}

/-- A recovery goes on, and what the others hold stays held. -/
theorem Holds.task {session : Address} (holds : system.Holds session)
    (found : system.reconnections.get? id = some current) (next : Reconnection)
    {later : AuthEventSystem}
    (remote : system.client.sessionRemote = some session →
      later.client.sessionRemote = some session)
    (carried : current.carried? = some session →
      later.client.sessionRemote = some session ∨ next.carried? = some session)
    (calls : later.calls = system.calls) :
    AuthEventSystem.Holds
      { later with reconnections := system.reconnections.insert id next } session := by
  rcases holds with held | pending | carries
  · exact .inl (remote held)
  · exact .inr (.inl (calls ▸ pending))
  · rw [SortedMap.has_of_get? found] at carries
    rcases carries with own | others
    · rcases carried own with kept | onward
      · exact .inl kept
      · exact .inr (.inr ((SortedMap.has_insert ..).mpr (.inl onward)))
    · exact .inr (.inr ((SortedMap.has_insert ..).mpr (.inr others)))

/-- A section of a recovery that empties or replaces no open session. -/
theorem Kept.handleDeath (kept : system.Kept)
    (found : system.reconnections.get? id = some current) {answer : AuthEventAnswer}
    (permitted : system.DropsNone (.reconnect id answer))
    {result : Reconnection × AuthEventSystem}
    (taken : system.handleDeath current answer = some result) :
    AuthEventSystem.Kept
      { result.2 with reconnections := system.reconnections.insert id result.1 } := by
  have drops := permitted current found
  obtain ⟨delays, events, stage⟩ := current
  have onward (next : Reconnection) (later : AuthEventSystem)
      (uncarried : Reconnection.carried? ⟨delays, events, stage⟩ = none)
      (service : later.service = system.service) (started : later.started = system.started)
      (table : later.table = system.table) (creation : later.creation = system.creation)
      (remote : later.client.sessionRemote = system.client.sessionRemote)
      (deleted : later.client.deleted = system.client.deleted)
      (calls : later.calls = system.calls) :
      AuthEventSystem.Kept
        { later with reconnections := system.reconnections.insert id next } := by
    refine kept.of_same service started table (fun session holds => ?_) ?_ ?_
    · refine holds.task found next remote.trans (fun own => ?_) calls
      exact absurd (own.symm.trans uncarried) (by simp)
    · dsimp only
      rw [deleted, remote]
      exact kept.deleted
    · dsimp only
      rw [creation, calls, deleted]
      exact kept.unmade
  cases stage with
  | snapshot =>
      obtain rfl := Option.some.inj taken
      refine ⟨fun session opened => ?_, kept.live, kept.within, fun _ => rfl, kept.unmade⟩
      refine (kept.held session opened).task found _ (fun held => ?_) (fun own => ?_) rfl
      · exact absurd opened (by simp [drops session held])
      · exact absurd own (by simp [Reconnection.carried?])
  | wake =>
      simp only [AuthEventSystem.handleDeath] at taken
      split_ifs at taken <;> obtain rfl := Option.some.inj taken <;>
        exact onward _ system rfl rfl rfl rfl rfl rfl rfl rfl
  | search =>
      simp only [AuthEventSystem.handleDeath] at taken
      split at taken
      · obtain rfl := Option.some.inj taken
        exact onward _ system rfl rfl rfl rfl rfl rfl rfl rfl
      · obtain rfl := Option.some.inj taken
        exact onward _ system rfl rfl rfl rfl rfl rfl rfl rfl
      · split_ifs at taken
        obtain rfl := Option.some.inj taken
        exact onward _ system rfl rfl rfl rfl rfl rfl rfl rfl
  | addDeathRecipient object =>
      simp only [AuthEventSystem.handleDeath] at taken
      split_ifs at taken <;> obtain rfl := Option.some.inj taken
      · exact onward _ (system.watched _) rfl rfl rfl rfl rfl rfl rfl rfl
      · exact onward _ system rfl rfl rfl rfl rfl rfl rfl rfl
  | creatAuthEventClient object =>
      simp only [AuthEventSystem.handleDeath] at taken
      split_ifs at taken
      · split at taken
        · obtain rfl := Option.some.inj taken
          exact onward _ system rfl rfl rfl rfl rfl rfl rfl rfl
        · obtain ⟨table, made, rfl⟩ := Option.map_eq_some_iff.mp taken
          have alive := (SessionTable.create?_eq_some.mp made).1
          refine ⟨fun session opened => ?_, kept.live, ?_, kept.deleted, kept.unmade⟩
          · obtain rfl := SessionTable.isOpen_of_create? made opened
            exact .inr (.inr ((SortedMap.has_insert ..).mpr (.inl rfl)))
          · exact kept.within.create? (kept.live object alive) made
      · obtain rfl := Option.some.inj taken
        exact onward _ system rfl rfl rfl rfl rfl rfl rfl rfl
  | switchSessionRemote newSession =>
      simp only [AuthEventSystem.handleDeath] at taken
      split_ifs at taken with deleted <;> obtain rfl := Option.some.inj taken
      · refine ⟨fun session opened => ?_, kept.live, kept.within.destroy _ _, kept.deleted,
          kept.unmade⟩
        obtain ⟨other, before⟩ := SessionTable.isOpen_destroy.mp opened
        refine (kept.held session before).task found _ (fun held => held) (fun own => ?_) rfl
        exact absurd (Option.some.inj own).symm other
      · refine ⟨fun session opened => ?_, kept.live, kept.within,
          fun gone => absurd gone deleted, kept.unmade⟩
        have spent := drops.resolve_left deleted
        refine (kept.held session opened).task found _ (fun held => ?_) .inl rfl
        exact absurd opened (by simp [spent session held])
  | subscribe session todo =>
      cases todo with
      | nil => exact absurd taken (by simp [AuthEventSystem.handleDeath])
      | cons eventId todo =>
          simp only [AuthEventSystem.handleDeath] at taken
          split_ifs at taken <;> obtain rfl := Option.some.inj taken
          · exact onward _ (system.applyAt session true eventId) rfl rfl rfl rfl rfl rfl rfl rfl
          · exact onward _ system rfl rfl rfl rfl rfl rfl rfl rfl
  | finished => exact absurd taken (by simp [AuthEventSystem.handleDeath])

end

theorem Kept.enter (kept : system.Kept) {id : ClientCallId} {call : AuthEventCall}
    (taken : system.enter id call = some after) : after.Kept := by
  rw [AuthEventSystem.enter] at taken
  split_ifs at taken with possible
  obtain rfl := Option.some.inj taken
  obtain ⟨made, fresh⟩ := possible
  refine kept.of_same rfl rfl rfl (fun session holds => ?_) kept.deleted
    fun unmade => absurd made unmade
  rcases holds with held | pending | carried
  · exact .inl held
  · have absent : system.calls.get? id = none := by simpa [SortedMap.contains] using fresh
    exact .inr (.inl ((SortedMap.has_insert_of_fresh absent _ _).mpr (.inr pending)))
  · exact .inr (.inr carried)

theorem Kept.next (kept : system.Kept) {action : AuthEventAction}
    (permitted : system.DropsNone action)
    (taken : AuthEventSystem.next system action = some after) : after.Kept := by
  cases action with
  | serviceStarts object =>
      simp only [AuthEventSystem.next] at taken
      split_ifs at taken with used
      obtain rfl := Option.some.inj taken
      have fresh : system.started.contains object = false := by simp_all
      refine ⟨fun session opened => ?_, fun other alive => ?_, fun session other created => ?_,
        kept.deleted, kept.unmade⟩
      · exact absurd opened (by simp [kept.within.isOpen_fresh fresh])
      · obtain rfl := Option.some.inj alive
        simp
      · simp [kept.within session other created]
  | serviceDies =>
      obtain ⟨object, alive, rfl⟩ := Option.map_eq_some_iff.mp taken
      refine ⟨fun session opened => ?_, fun other alive => ?_, kept.within, kept.deleted,
        kept.unmade⟩
      · exact absurd opened (by simp [AuthEventSystem.serviceDies, SessionTable.isOpen_none])
      · exact absurd alive (by simp [AuthEventSystem.serviceDies])
  | remoteDied object id promoted =>
      simp only [AuthEventSystem.next] at taken
      split_ifs at taken with noticed
      obtain rfl := Option.some.inj taken
      have absent : system.reconnections.get? id = none := by
        simp_all [SortedMap.contains]
      refine kept.of_same rfl rfl rfl (fun session holds => ?_) kept.deleted kept.unmade
      rcases holds with held | pending | carried
      · exact .inl held
      · exact .inr (.inl pending)
      · exact .inr (.inr ((SortedMap.has_insert_of_fresh absent _ _).mpr (.inr carried)))
  | creatClient object session =>
      simp only [AuthEventSystem.next] at taken
      split_ifs at taken with start
      obtain ⟨table, made, rfl⟩ := Option.map_eq_some_iff.mp taken
      have alive := (SessionTable.create?_eq_some.mp made).1
      obtain ⟨none, kept'⟩ := kept.unmade (by simp [start])
      refine ⟨fun other opened => ?_, kept.live, kept.within.create? (kept.live object alive) made,
        fun deleted => absurd (deleted.symm.trans kept') (by simp), fun _ => ⟨none, kept'⟩⟩
      obtain rfl := SessionTable.isOpen_of_create? made opened
      exact .inl rfl
  | setDeathRecipient allocated =>
      simp only [AuthEventSystem.next] at taken
      split at taken
      · obtain rfl := Option.some.inj taken
        exact kept.of_same rfl rfl rfl (fun session holds => holds) kept.deleted
          fun unmade => absurd rfl unmade
      · exact absurd taken (by simp)
      · exact absurd taken (by simp)
  | subscribe id eventId => exact kept.enter taken
  | unsubscribe id eventId => exact kept.enter taken
  | deleteClient id => exact kept.enter taken
  | proceed id answer =>
      obtain ⟨call, found, moved⟩ := Option.bind_eq_some_iff.mp taken
      obtain ⟨result, sectioned, rfl⟩ := Option.map_eq_some_iff.mp moved
      exact kept.call found sectioned
  | reconnect id answer =>
      obtain ⟨task, found, moved⟩ := Option.bind_eq_some_iff.mp taken
      obtain ⟨result, sectioned, rfl⟩ := Option.map_eq_some_iff.mp moved
      exact kept.handleDeath found permitted sectioned

theorem allDestroyed_of_run {actions : List AuthEventAction} {final : AuthEventSystem}
    (permitted : Transition.Along AuthEventSystem.next DropsNone {} actions)
    (reach : Transition.run AuthEventSystem.next {} actions = some final)
    (finished : final.Finished) : final.table.AllDestroyed final.service :=
  (Transition.run_invariant (fun kept permits taken => kept.next permits taken) kept_initial
    permitted reach).allDestroyed finished

end AuthEventSystem

end SecurityGuard
