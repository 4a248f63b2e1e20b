import SecurityGuard.Auth.ClientStatus
import SecurityGuard.Auth.Steps

/-!
# The events of a session

A session keeps the set of its events and, beside it, the service of each of them.  Both are
changed together, and the lists of the services are made of both.  The limit on the events of a
session is tested before it is known whether a subscription adds one.
-/

namespace SecurityGuard

namespace AuthEventSessionService

/-- The two containers have the same events, few enough and each with the name of a service. -/
structure Tidy (object : AuthEventSessionService) : Prop where
  services : ∀ eventId,
    object.eventServiceMap.contains eventId = object.eventIds.contains eventId
  named : ∀ eventId, object.eventServiceMap.get? eventId ≠ some ""
  few : object.eventIds.size ≤ maxAuthEventSubscribeSize

variable {object : AuthEventSessionService} {eventId : Int} {serviceId : String}

theorem Tidy.registerEvent (tidy : object.Tidy) (named : serviceId ≠ "")
    (room : object.eventIds.size < maxAuthEventSubscribeSize) :
    (object.registerEvent eventId serviceId).Tidy where
  services other := by
    simp only [AuthEventSessionService.registerEvent, SortedMap.contains_insert,
      tidy.services other]
  named other := by
    simp only [AuthEventSessionService.registerEvent, SortedMap.get?_insert]
    split_ifs
    · simpa using named
    · exact tidy.named other
  few := (SortedMap.size_insert_le object.eventIds eventId ()).trans room

theorem Tidy.unregisterEvent (tidy : object.Tidy) (eventId : Int) :
    (object.unregisterEvent eventId).Tidy where
  services other := by
    simp only [AuthEventSessionService.unregisterEvent, SortedMap.contains_erase,
      tidy.services other]
  named other := by
    simp only [AuthEventSessionService.unregisterEvent, SortedMap.get?_erase]
    split_ifs
    · simp
    · exact tidy.named other
  few := by
    refine le_trans ?_ tidy.few
    cases bound : object.eventIds.contains eventId with
    | false =>
        have absent : object.eventIds.get? eventId = none := by
          simpa [SortedMap.contains] using bound
        rw [AuthEventSessionService.unregisterEvent, SortedMap.erase_of_absent absent]
    | true =>
        have one_less := SortedMap.size_erase bound
        simp only [AuthEventSessionService.unregisterEvent]
        omega

/-- The events of a session that belong to a service. -/
def eventsOf (object : AuthEventSessionService) (serviceId : String) : List Int :=
  object.eventIds.keys.filter fun eventId => object.getServiceIdForEvent eventId = serviceId

theorem Tidy.mem_eventsOf (tidy : object.Tidy) :
    eventId ∈ object.eventsOf serviceId ↔
      object.eventServiceMap.get? eventId = some serviceId := by
  rw [eventsOf, List.mem_filter, SortedMap.mem_keys_iff, decide_eq_true_iff, getServiceIdForEvent,
    ← tidy.services]
  cases found : object.eventServiceMap.get? eventId with
  | none => simp [SortedMap.contains, found]
  | some service => simp [SortedMap.contains, found]

theorem clientInfo?_eq_some {info : AuthClientInfo}
    (shown : object.clientInfo? serviceId = some info) :
    info.clientId = object.clientId ∧ info.subscribedEvents = object.eventsOf serviceId := by
  rw [clientInfo?] at shown
  split_ifs at shown
  cases shown
  exact ⟨rfl, rfl⟩

theorem clientInfo?_eq_none :
    object.clientInfo? serviceId = none ↔ object.eventsOf serviceId = [] := by
  rw [clientInfo?, ← eventsOf]
  split_ifs with empty
  · exact iff_of_true rfl (List.isEmpty_iff.mp empty)
  · exact iff_of_false (by simp) (mt List.isEmpty_iff.mpr empty)

/-- The event is among those that the list of the service shows for the session. -/
def ShownTo (object : AuthEventSessionService) (serviceId : String) (eventId : Int) : Prop :=
  ∃ info, object.clientInfo? serviceId = some info ∧ eventId ∈ info.subscribedEvents

theorem shownTo_iff : object.ShownTo serviceId eventId ↔ eventId ∈ object.eventsOf serviceId := by
  constructor
  · rintro ⟨info, shown, mem⟩
    exact (clientInfo?_eq_some shown).2 ▸ mem
  · intro mem
    have present : object.clientInfo? serviceId ≠ none := by
      rw [Ne, clientInfo?_eq_none]
      exact List.ne_nil_of_mem mem
    obtain ⟨info, shown⟩ := Option.ne_none_iff_exists'.mp present
    exact ⟨info, shown, (clientInfo?_eq_some shown).2 ▸ mem⟩

end AuthEventSessionService

namespace AuthEventSubscribeManager

open AuthEventSessionService (Tidy)

/-- The entries of a session in the lists of all services: at most one in each list, with the
events of the service, and every event in exactly one of them. -/
structure Listed (manager : AuthEventSubscribeManager) (session : Address)
    (object : AuthEventSessionService) : Prop where
  once : ∀ serviceId, ∃ front back, session ∉ front ∧ session ∉ back ∧
    manager.getAllSessions = front ++ session :: back ∧
      manager.collectClientInfos serviceId =
        front.filterMap (manager.clientInfoAt serviceId) ++
          (object.clientInfo? serviceId).toList ++
            back.filterMap (manager.clientInfoAt serviceId)
  own : ∀ serviceId info, object.clientInfo? serviceId = some info →
    info.clientId = object.clientId ∧ info.subscribedEvents.Nodup ∧
      ∀ eventId, eventId ∈ info.subscribedEvents ↔
        object.eventServiceMap.get? eventId = some serviceId
  absent : ∀ serviceId, object.clientInfo? serviceId = none ↔
    ∀ eventId, object.eventServiceMap.get? eventId ≠ some serviceId
  parts : ∀ eventId, object.eventIds.contains eventId = true ↔
    ∃! serviceId, object.ShownTo serviceId eventId

/-- The bookkeeping of a session: its containers agree, the lists are made of its events, and an
event that it subscribes can be subscribed again. -/
structure KeepsBooks (manager : AuthEventSubscribeManager) (session : Address)
    (object : AuthEventSessionService) : Prop where
  tidy : object.Tidy
  listed : manager.Listed session object
  again : ∀ eventId serviceId, object.eventIds.contains eventId = true → serviceId ≠ "" →
    (manager.subscribeAuthEvent session eventId serviceId).1 = .success

/-- Every session object is tidy, and those in the set exist and are valid. -/
structure Tidied (manager : AuthEventSubscribeManager) : Prop where
  tidy : ∀ session object, manager.sessionObjects.get? session = some object → object.Tidy
  valid : ∀ session, manager.sessions.contains session = true →
    ∃ object, manager.sessionObjects.get? session = some object ∧ object.valid = true

variable {manager : AuthEventSubscribeManager} {session : Address}
  {object : AuthEventSessionService}

theorem tidied_initial : Tidied {} where
  tidy _ _ found := by simp at found
  valid _ member := by simp at member

/-- Changing an object into a tidy one that is as valid keeps the objects tidy. -/
theorem Tidied.modify (tidied : manager.Tidied)
    {change : AuthEventSessionService → AuthEventSessionService}
    (tidy : ∀ object, manager.sessionObjects.get? session = some object → (change object).Tidy)
    (valid : ∀ object, (change object).valid = object.valid) :
    Tidied { manager with sessionObjects := manager.sessionObjects.modify session change } where
  tidy other object found := by
    rcases SortedMap.get?_modify_eq_some.mp found with ⟨rfl, before, present, rfl⟩ | ⟨-, found⟩
    · exact tidy before present
    · exact tidied.tidy other object found
  valid other member := by
    obtain ⟨object, found, live⟩ := tidied.valid other member
    simp only [SortedMap.get?_modify]
    split_ifs with same
    · subst same
      exact ⟨change object, by rw [found]; rfl, (valid object).trans live⟩
    · exact ⟨object, found, live⟩

theorem Tidied.subscribeAuthEvent (tidied : manager.Tidied) (session : Address) (eventId : Int)
    {serviceId : String} (named : serviceId ≠ "") :
    (manager.subscribeAuthEvent session eventId serviceId).2.Tidied := by
  rw [AuthEventSubscribeManager.subscribeAuthEvent]
  split
  · exact tidied
  · split
    · exact tidied
    · next object found =>
        split_ifs with full
        · exact tidied
        · have same :
              manager.sessionObjects.insert session (object.registerEvent eventId serviceId) =
                manager.sessionObjects.modify session (·.registerEvent eventId serviceId) := by
            simp [SortedMap.modify, found]
          dsimp only
          rw [same]
          refine tidied.modify ?_ fun _ => rfl
          intro before present
          obtain rfl : object = before := Option.some.inj (found.symm.trans present)
          exact (tidied.tidy session object found).registerEvent named (not_le.mp full)

theorem Tidied.unsubscribeAuthEvent (tidied : manager.Tidied) (session : Address)
    (eventId : Int) : (manager.unsubscribeAuthEvent session eventId).2.Tidied := by
  rw [AuthEventSubscribeManager.unsubscribeAuthEvent]
  split
  · exact tidied
  · exact tidied.modify
      (fun object found => (tidied.tidy session object found).unregisterEvent eventId)
      fun _ => rfl

theorem Tidied.generateSeqnum (tidied : manager.Tidied) (session : Address) :
    (manager.generateSeqnum session).Tidied := by
  refine tidied.modify (fun object found => ?_) fun _ => rfl
  have tidy := tidied.tidy session object found
  exact ⟨tidy.services, tidy.named, tidy.few⟩

theorem Tidied.setAuthResult (tidied : manager.Tidied) (session : Address) (event : AuthEvent)
    (strategy : AuthStrategy) : (manager.setAuthResult session event strategy).2.Tidied := by
  rw [AuthEventSubscribeManager.setAuthResult]
  split_ifs
  · exact tidied
  · exact tidied
  · exact tidied
  · exact ⟨tidied.tidy, tidied.valid⟩

theorem Tidied.removeSessionLocked (tidied : manager.Tidied) (session : Address) :
    (manager.removeSessionLocked session).Tidied := by
  rw [AuthEventSubscribeManager.removeSessionLocked]
  split_ifs
  · refine ⟨fun other object found => ?_, fun other member => ?_⟩
    · rcases SortedMap.get?_modify_eq_some.mp found with ⟨-, before, present, rfl⟩ | ⟨-, found⟩
      · have tidy := tidied.tidy other before present
        exact ⟨tidy.services, tidy.named, tidy.few⟩
      · exact tidied.tidy other object found
    · simp only [SortedMap.contains_erase, Bool.and_eq_true, Bool.not_eq_true',
        decide_eq_false_iff_not] at member
      obtain ⟨differs, member⟩ := member
      obtain ⟨object, found, live⟩ := tidied.valid other member
      exact ⟨object, by rw [SortedMap.get?_modify, if_neg differs, found], live⟩
  · exact tidied

theorem Tidied.creatAuthEventClient (tidied : manager.Tidied) (hash : String → Nat)
    (params : CreateClientParams) (address : Address) (time : Nat) :
    (manager.creatAuthEventClient hash params address time).2.Tidied := by
  rw [AuthEventSubscribeManager.creatAuthEventClient]
  split
  · exact tidied
  · dsimp only
    split_ifs
    · exact tidied
    · exact tidied
    all_goals
      refine ⟨fun other object found => ?_, fun other member => ?_⟩
      · simp only [SortedMap.get?_insert] at found
        split_ifs at found
        · cases found
          exact ⟨fun _ => rfl, fun _ => by simp, Nat.zero_le _⟩
        · exact tidied.tidy other object found
      · simp only [SortedMap.get?_insert]
        split_ifs with same
        · exact ⟨_, rfl, rfl⟩
        · simp only [SortedMap.contains_insert, same, decide_false, Bool.false_or] at member
          exact tidied.valid other member

theorem Tidied.listed (tidied : manager.Tidied) (live : manager.sessions.contains session = true)
    (found : manager.sessionObjects.get? session = some object) :
    manager.Listed session object where
  once serviceId := by
    obtain ⟨own, present, valid⟩ := tidied.valid session live
    obtain rfl : object = own := Option.some.inj (found.symm.trans present)
    have mem : session ∈ manager.getAllSessions :=
      List.mem_filter.mpr ⟨SortedMap.mem_keys_iff.mpr live, by simp [found, valid]⟩
    have nodup : manager.getAllSessions.Nodup := manager.sessions.keys_nodup.filter _
    obtain ⟨front, back, split⟩ := List.append_of_mem mem
    rw [split, List.nodup_append] at nodup
    refine ⟨front, back, ?_, ?_, split, ?_⟩
    · exact fun earlier => nodup.2.2 session earlier session List.mem_cons_self rfl
    · exact (List.nodup_cons.mp nodup.2.1).1
    · have shown : manager.clientInfoAt serviceId session = object.clientInfo? serviceId := by
        rw [clientInfoAt, found, Option.bind_some]
      rw [collectClientInfos, split, List.filterMap_append, List.filterMap_cons, shown]
      cases object.clientInfo? serviceId <;> simp
  own serviceId info shown := by
    obtain ⟨client, events⟩ := AuthEventSessionService.clientInfo?_eq_some shown
    have tidy := tidied.tidy session object found
    refine ⟨client, ?_, fun eventId => ?_⟩
    · rw [events]
      exact object.eventIds.keys_nodup.filter _
    · rw [events, tidy.mem_eventsOf]
  absent serviceId := by
    have tidy := tidied.tidy session object found
    rw [AuthEventSessionService.clientInfo?_eq_none, List.eq_nil_iff_forall_not_mem]
    exact forall_congr' fun eventId => not_congr tidy.mem_eventsOf
  parts eventId := by
    have tidy := tidied.tidy session object found
    simp only [AuthEventSessionService.shownTo_iff, tidy.mem_eventsOf]
    rw [← tidy.services, SortedMap.contains_iff]
    constructor
    · rintro ⟨serviceId, bound⟩
      exact ⟨serviceId, bound, fun other bound' => Option.some.inj (bound'.symm.trans bound)⟩
    · rintro ⟨serviceId, bound, -⟩
      exact ⟨serviceId, bound⟩

theorem subscribeAuthEvent_success (live : manager.sessions.contains session = true)
    (found : manager.sessionObjects.get? session = some object) (eventId : Int)
    (serviceId : String) :
    (manager.subscribeAuthEvent session eventId serviceId).1 = .success ↔
      object.eventIds.size < maxAuthEventSubscribeSize := by
  simp only [AuthEventSubscribeManager.subscribeAuthEvent, live, found, Bool.not_true,
    Bool.false_eq_true, if_false]
  split_ifs with full
  · exact iff_of_false (by decide : Code.filterExceedLimit ≠ Code.success) (not_lt.mpr full)
  · exact iff_of_true rfl (not_le.mp full)

/-- The books of a session are kept exactly while it has room for one more event. -/
theorem Tidied.books_iff_room (tidied : manager.Tidied)
    (live : manager.sessions.contains session = true)
    (found : manager.sessionObjects.get? session = some object) :
    manager.KeepsBooks session object ↔ object.eventIds.size < maxAuthEventSubscribeSize := by
  constructor
  · intro books
    by_contra full
    have pos : 0 < object.eventIds.size := by
      rw [not_lt] at full
      exact lt_of_lt_of_le (by decide : 0 < maxAuthEventSubscribeSize) full
    obtain ⟨eventId, _, bound⟩ := SortedMap.exists_of_size_pos pos
    have subscribed : object.eventIds.contains eventId = true :=
      SortedMap.contains_iff.mpr ⟨_, bound⟩
    have accepted := books.again eventId "service" subscribed (by decide)
    exact full ((subscribeAuthEvent_success live found eventId "service").mp accepted)
  · intro room
    exact
      { tidy := tidied.tidy session object found
        listed := tidied.listed live found
        again := fun eventId serviceId _ _ =>
          (subscribeAuthEvent_success live found eventId serviceId).mpr room }

end AuthEventSubscribeManager

namespace AuthSystem

variable {hash : String → Nat} {before after system : AuthSystem} {action : AuthAction}
  {actions : List AuthAction} {session : Address} {object : AuthEventSessionService}

/-- The manager of a service keeps its lists tidy. -/
def Tidied (system : AuthSystem) : Prop := system.coordinator.manager.Tidied

theorem Tidied.step (tidied : before.Tidied) (taken : next hash before action = some after) :
    after.Tidied := by
  rw [AuthSystem.Tidied] at tidied ⊢
  have step := next_manager taken
  generalize after.coordinator.manager = manager at step ⊢
  cases step with
  | unchanged => exact tidied
  | created params fresh => exact tidied.creatAuthEventClient hash params _ _
  | subscribed named => exact tidied.subscribeAuthEvent _ _ named
  | unsubscribed => exact tidied.unsubscribeAuthEvent _ _
  | removed session => exact tidied.removeSessionLocked session
  | generated session => exact tidied.generateSeqnum session
  | stored session event strategy => exact tidied.setAuthResult session event strategy

theorem tidied_initial : Tidied {} := AuthEventSubscribeManager.tidied_initial

theorem tidied_of_run (reach : Transition.run (next hash) {} actions = some system) :
    system.Tidied :=
  Transition.run_stable Tidied.step tidied_initial reach

/-- In every reachable state, the books of a session in the set are kept exactly while it has
room for one more event. -/
theorem keepsBooks_iff (reach : Transition.run (next hash) {} actions = some system)
    (live : system.coordinator.manager.sessions.contains session = true)
    (found : system.coordinator.manager.sessionObjects.get? session = some object) :
    system.coordinator.manager.KeepsBooks session object ↔
      object.eventIds.size < maxAuthEventSubscribeSize := by
  exact (tidied_of_run reach).books_iff_room live found

theorem keepsBooks_iff_joined :
    let joined := Transition.run (next fun _ => 0) {} (joinClient 1 7 1)
    ∃ system object, joined = some system ∧
      system.coordinator.manager.sessionObjects.get? 1 = some object ∧
        system.coordinator.manager.KeepsBooks 1 object := by
  intro joined
  obtain ⟨system, reach⟩ := Option.isSome_iff_exists.mp (by decide +kernel : joined.isSome = true)
  have system_eq : system = joined.getD {} := by rw [reach, Option.getD_some]
  have live : system.coordinator.manager.sessions.contains 1 = true := by
    rw [system_eq]
    decide +kernel
  have present : (system.coordinator.manager.sessionObjects.get? 1).any (fun object =>
      object.eventIds.size < maxAuthEventSubscribeSize) = true := by
    rw [system_eq]
    decide +kernel
  obtain ⟨object, found, room⟩ := (Option.any_eq_true _ _).mp present
  exact ⟨system, object, reach, found,
    (keepsBooks_iff reach live found).mpr (of_decide_eq_true room)⟩

/-- Subscribing some new events, one after the other. -/
def subscribeEvents (session : Address) (events : List Int) : List AuthAction :=
  events.map fun eventId => .subscribe clientCaller session eventId (some "service")

variable (hash) in
/-- New events enter a session while there is room. -/
theorem run_subscribeEvents {events : List Int}
    (live : system.coordinator.manager.sessions.contains session = true)
    (found : system.coordinator.manager.sessionObjects.get? session = some object)
    (allowed : sessionCaller clientCaller object = true)
    (fresh : ∀ eventId ∈ events, object.eventIds.contains eventId = false) (nodup : events.Nodup)
    (room : object.eventIds.size + events.length ≤ maxAuthEventSubscribeSize) :
    ∃ final later, Transition.run (next hash) system (subscribeEvents session events) =
        some final ∧
      final.coordinator.manager.sessions.contains session = true ∧
        final.coordinator.manager.sessionObjects.get? session = some later ∧
          later.eventIds.size = object.eventIds.size + events.length := by
  induction events generalizing system object with
  | nil => exact ⟨system, object, rfl, live, found, rfl⟩
  | cons eventId events ih =>
      rw [List.length_cons] at room
      let registered := object.registerEvent eventId "service"
      let after := system.withManager
        { system.coordinator.manager with
          sessionObjects :=
            system.coordinator.manager.sessionObjects.insert session registered }
      have taken : next hash system (.subscribe clientCaller session eventId (some "service")) =
          some after := by
        have below : ¬maxAuthEventSubscribeSize ≤ object.eventIds.size := by omega
        simp [next, sessionObject?, found, allowed, AuthEventSubscribeManager.subscribeAuthEvent,
          live, below, after, registered]
      have grown : registered.eventIds.size = object.eventIds.size + 1 :=
        SortedMap.size_insert_of_fresh () (fresh eventId List.mem_cons_self)
      have others : ∀ other ∈ events, registered.eventIds.contains other = false := by
        intro other mem
        have differs : other ≠ eventId := fun same => (List.nodup_cons.mp nodup).1 (same ▸ mem)
        simp [registered, AuthEventSessionService.registerEvent, differs,
          fresh other (List.mem_cons_of_mem _ mem)]
      have live_after : after.coordinator.manager.sessions.contains session = true := live
      have entered : after.coordinator.manager.sessionObjects.get? session = some registered :=
        SortedMap.get?_insert_self _ _ _
      obtain ⟨final, later, reach, live', found', size⟩ :=
        ih live_after entered allowed others (List.nodup_cons.mp nodup).2 (by omega)
      refine ⟨final, later, ?_, live', found', by rw [List.length_cons]; omega⟩
      exact Transition.run_cons_eq_some.mpr ⟨after, taken, reach⟩

/-- A session that subscribes as many events as it may cannot subscribe one of them again. -/
theorem full_session_refuses_again :
    ∃ actions system object, Transition.run (next fun _ => 0) {} actions = some system ∧
      system.coordinator.manager.sessions.contains 1 = true ∧
        system.coordinator.manager.sessionObjects.get? 1 = some object ∧
          object.eventIds.size = maxAuthEventSubscribeSize ∧
            ¬system.coordinator.manager.KeepsBooks 1 object := by
  let created : List AuthAction := [.creatAuthEventClient clientCaller 1 (some 101) 1 7]
  obtain ⟨start, reach⟩ := Option.isSome_iff_exists.mp
    (by decide +kernel : (Transition.run (next fun _ => 0) {} created).isSome = true)
  have start_eq : start = (Transition.run (next fun _ => 0) {} created).getD {} := by
    rw [reach, Option.getD_some]
  have live : start.coordinator.manager.sessions.contains 1 = true := by
    rw [start_eq]
    decide +kernel
  have present : (start.coordinator.manager.sessionObjects.get? 1).any (fun object =>
      object.eventIds = .empty && sessionCaller clientCaller object) = true := by
    rw [start_eq]
    decide +kernel
  obtain ⟨object, found, facts⟩ := (Option.any_eq_true _ _).mp present
  rw [Bool.and_eq_true, decide_eq_true_iff] at facts
  obtain ⟨empty, allowed⟩ := facts
  let events : List Int := (List.range maxAuthEventSubscribeSize).map Int.ofNat
  have nodup : events.Nodup :=
    List.nodup_range.map fun _ _ same => Int.ofNat.inj same
  have fresh : ∀ eventId ∈ events, object.eventIds.contains eventId = false := by
    simp [empty]
  have size : object.eventIds.size + events.length = maxAuthEventSubscribeSize := by
    simp [empty, events]
  obtain ⟨system, later, subscribed, live', found', grown⟩ :=
    run_subscribeEvents (fun _ => 0) live found allowed fresh nodup size.le
  have whole : Transition.run (next fun _ => 0) {} (created ++ subscribeEvents 1 events) =
      some system := by
    rw [Transition.run_append, reach, Option.bind_some, subscribed]
  rw [size] at grown
  refine ⟨_, system, later, whole, live', found', grown, fun books => ?_⟩
  have room := ((tidied_of_run whole).books_iff_room live' found').mp books
  omega

end AuthSystem

end SecurityGuard
