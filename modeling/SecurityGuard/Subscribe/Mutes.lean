import SecurityGuard.Foundation.Execution
import SecurityGuard.Subscribe.Filters
import SecurityGuard.Subscribe.Interleaving
import SecurityGuard.Subscribe.Plugin
import SecurityGuard.Subscribe.Revision

/-!
# The filters of a session and of the plugin

A filter stands twice, in the session that set it and in the plugin.  It is handed over when its
event is subscribed and taken back when it is removed or the session ends.  Four paths miss
this: the older subscription hands nothing over, the older unsubscription ends a session without
taking anything back, a filter is removed from the session alone once its event is unsubscribed,
and the death of a client without name takes nothing back.  The copies agree throughout a run
exactly if no operation takes one of these paths with a filter that they concern.
-/

namespace SecurityGuard

namespace Manager

variable {σ : Type} {config : ConfigData} {env : Externals σ} {manager : Manager σ}
  {clientId : String} {eventId : Int} {holds : σ → SecurityCollectorEventMuteFilter → Prop}
  {filter : EventMuteFilter}

/-- A subscription hands over the filters that were set before. -/
theorem FiltersKept.handOver (kept : FiltersKept config holds manager)
    (maintains : env.MaintainsFilters holds) {session : ClientSession}
    (found : manager.sessionsMap.get? clientId = some session)
    (configured : (config.getEventConfig eventId).isSome = true) {called : Manager σ}
    (sessions : called.sessionsMap =
      manager.sessionsMap.insert clientId (session.withEvent eventId))
    (world : holds called.world = holds manager.world) :
    FiltersKept config holds
      (insertMutes config env clientId (filtersOf session eventId) called) := by
  have own := kept clientId
  rw [found] at own
  have filed := own.wellFiled session rfl
  have still {filter : EventMuteFilter} (mem : filter ∈ filtersOf session eventId) :
      filter ∈ filtersOf session filter.eventId := by
    rwa [filed.event eventId filter mem]
  have inSession (filter : EventMuteFilter) : called.isFilterInSession clientId filter = true ↔
      filter ∈ filtersOf session filter.eventId := by
    rw [isFilterInSession, sessions, SortedMap.get?_insert_self, Option.any_some,
      List.contains_iff_mem]
    rfl
  have grown (other : SecurityCollectorEventMuteFilter) :
      holds (insertMutes config env clientId (filtersOf session eventId) called).world other ↔
        (∃ filter ∈ filtersOf session eventId,
          (config.getEventConfig filter.eventId).isSome = true ∧
            other = convertFilter filter clientId) ∨ holds manager.world other := by
    rw [insertMutes_holds maintains, world]
    simp only [inSession]
    refine or_congr_left (exists_congr fun filter => and_congr_right fun mem => ?_)
    exact and_iff_right (still mem)
  refine kept.of_own clientId (fun other ne => ?_) (fun filter foreign => ?_) ?_
  · rw [insertMutes_sessionsMap, sessions, SortedMap.get?_insert, if_neg ne]
  · rw [grown]
    refine or_iff_right ?_
    rintro ⟨own, -, -, rfl⟩
    exact foreign rfl
  · rw [insertMutes_sessionsMap, sessions, SortedMap.get?_insert_self]
    refine (own.push (fun filter mem => still mem) grown).withEvent fun filter mem => ?_
    refine (grown _).mpr (.inl ⟨filter, mem, ?_, rfl⟩)
    rwa [filed.event eventId filter mem]

theorem FiltersKept.insertSubscribeRecord (kept : FiltersKept config holds manager)
    (maintains : env.MaintainsFilters holds) :
    FiltersKept config holds (manager.insertSubscribeRecord config env eventId clientId).2 := by
  rw [Manager.insertSubscribeRecord]
  cases found : manager.sessionsMap.get? clientId with
  | none =>
      rw [enterRecord, found]
      exact kept
  | some session =>
      cases fresh : session.subEvents.contains eventId with
      | true =>
          simp only [enterRecord, found, fresh, if_true]
          exact kept
      | false =>
          have sessions := (subscribeScIfNeeded_collectorOnly config env
            (manager.withSubscription eventId clientId session) eventId).sessionsMap
          have world := subscribeScIfNeeded_holds config
            (manager.withSubscription eventId clientId session) eventId maintains
          rw [enterRecord_of_not_subscribed found fresh]
          dsimp only
          split_ifs with failed
          · refine kept.same ?_ ?_
            · refine (rollbackInsert_sessionsMap sessions fresh false).trans ?_
              rw [if_neg (by simp), SortedMap.insert_of_get? found]
            · rw [rollbackInsert_world, world]
              rfl
          · rw [subscribeScIfNeeded_code] at failed
            exact kept.handOver maintains found (configured_of_subscribeSc (not_not.mp failed))
              sessions world

variable (config manager clientId) in
theorem insertSubscribeRecordWith_holds (maintains : env.MaintainsFilters holds)
    (info : SubscribeInfo) :
    holds (manager.insertSubscribeRecordWith config env info clientId).2.world =
      holds manager.world := by
  rw [insertSubscribeRecordWith]
  cases fresh : (manager.sessionFor info clientId).subEvents.contains info.eventId with
  | true =>
      rw [sessionFor] at fresh
      simp [enterRecordWith, fresh]
  | false =>
      have world := subscribeScIfNeeded_holds config (manager.withSubscription info.eventId clientId
        (manager.sessionFor info clientId)) info.eventId maintains
      rw [enterRecordWith_of_not_subscribed fresh]
      dsimp only
      split_ifs
      · rw [rollbackInsert_world, world]
        rfl
      · rw [world]
        rfl

theorem ClientInStep.sessionFor (inStep : ClientInStep config (holds manager.world) clientId
      (manager.sessionsMap.get? clientId)) (info : SubscribeInfo) :
    ClientInStep config (holds manager.world) clientId
      (some (manager.sessionFor info clientId)) := by
  rw [Manager.sessionFor]
  cases found : manager.sessionsMap.get? clientId with
  | none =>
      rw [found] at inStep
      exact inStep.created rfl rfl
  | some session =>
      rw [found] at inStep
      exact inStep

/-- The filters that a session without the event has set on it. -/
def cachedFilters (manager : Manager σ) (eventId : Int) (clientId : String) :
    List EventMuteFilter :=
  ((manager.sessionsMap.get? clientId).map fun session => filtersOf session eventId).getD []

theorem cachedFilters_sessionFor (info : SubscribeInfo) (event : Int) :
    filtersOf (manager.sessionFor info clientId) event = manager.cachedFilters event clientId := by
  rw [sessionFor, cachedFilters]
  cases manager.sessionsMap.get? clientId <;> rfl

/-- The older form hands nothing over, so it may not find a filter that the plugin misses. -/
def HandsNothingOver (config : ConfigData) (env : Externals σ)
    (holds : σ → SecurityCollectorEventMuteFilter → Prop) (manager : Manager σ) (eventId : Int)
    (clientId : String) : Prop :=
  manager.subscribes clientId eventId = false →
    (manager.subscribeSc config env eventId).1 = .success →
      ∀ filter ∈ manager.cachedFilters eventId clientId,
        holds manager.world (convertFilter filter clientId)

theorem FiltersKept.insertSubscribeRecordWith (kept : FiltersKept config holds manager)
    (maintains : env.MaintainsFilters holds) {info : SubscribeInfo}
    (nothing : HandsNothingOver config env holds manager info.eventId clientId) :
    FiltersKept config holds (manager.insertSubscribeRecordWith config env info clientId).2 := by
  have sessions := insertSubscribeRecordWith_sessionsMap config env manager clientId info
  have world := insertSubscribeRecordWith_holds config manager clientId maintains info
  split_ifs at sessions with entered
  · refine kept.insert sessions world ?_
    refine ((kept clientId).sessionFor info).withEvent fun filter mem => ?_
    rw [cachedFilters_sessionFor] at mem
    exact nothing entered.1 entered.2 filter mem
  · exact kept.same sessions world

/-- The older form ends a session with its last event, but takes no filter back. -/
def EndsUnfiltered (config : ConfigData) (env : Externals σ)
    (holds : σ → SecurityCollectorEventMuteFilter → Prop) (manager : Manager σ) (eventId : Int)
    (clientId : String) : Prop :=
  ∀ session ∈ manager.sessionsMap.get? clientId, session.subEvents.contains eventId = true →
    (session.withoutEvent eventId).subEvents.size = 0 →
      ((manager.withoutSubscription eventId clientId session).unSubscribeScIfLast config env
        eventId).1 = .success →
        ∀ filter ∈ session.filters, ¬holds manager.world (convertFilter filter clientId)

theorem ClientInStep.absent_of_filters {held : SecurityCollectorEventMuteFilter → Prop}
    {session : ClientSession} (inStep : ClientInStep config held clientId (some session))
    (missing : ∀ filter ∈ session.filters, ¬held (convertFilter filter clientId))
    (other : SecurityCollectorEventMuteFilter) (has : held other) :
    other.instanceFlag ≠ clientId := by
  intro own
  obtain ⟨found, present, record, mem, rfl⟩ := inStep.recorded other has own
  obtain rfl := Option.some.inj present
  exact missing record (ClientSession.mem_filters.mpr ⟨_, mem⟩) has

theorem FiltersKept.removeSubscribeRecordCore (kept : FiltersKept config holds manager)
    (maintains : env.MaintainsFilters holds) {cleanupSession : Bool}
    (unfiltered : cleanupSession = true →
      EndsUnfiltered config env holds manager eventId clientId) :
    FiltersKept config holds
      (manager.removeSubscribeRecordCore config env eventId clientId cleanupSession).2 := by
  have world := removeSubscribeRecordCore_holds config manager clientId eventId maintains
    cleanupSession
  rcases removeSubscribeRecordCore_cases config env manager clientId eventId cleanupSession with
    same | ⟨session, found, had, stopped, left⟩
  · exact kept.same same world
  · have own := kept clientId
    rw [found] at own
    split_ifs at left with ends
    · refine kept.erase left (fun filter _ => by rw [world]) ?_
      rw [world]
      exact own.absent_of_filters (unfiltered ends.1 session found had ends.2 stopped)
    · exact kept.insert left world (own.withoutEvent eventId)

theorem addFilter_get? (other : String) :
    (manager.addFilter filter clientId).sessionsMap.get? other =
      if other = clientId then
        (manager.sessionsMap.get? clientId).map fun session => session.withFilter filter
      else manager.sessionsMap.get? other :=
  SortedMap.get?_modify _ _ _ _

theorem eraseFilterFromSession_get? (other : String) :
    (manager.eraseFilterFromSession clientId filter).sessionsMap.get? other =
      if other = clientId then
        (manager.sessionsMap.get? clientId).map fun session => session.withoutFilter filter
      else manager.sessionsMap.get? other :=
  SortedMap.get?_modify _ _ _ _

theorem callFilter_unconfigured
    {call : FilterPlugin σ → SecurityCollectorEventMuteFilter → σ → Code × σ}
    (unconfigured : ¬(config.getEventConfig filter.eventId).isSome = true) :
    manager.callFilter config env call filter clientId = (.badParam, manager) := by
  rw [Bool.not_eq_true, Option.isSome_eq_false_iff, Option.isNone_iff_eq_none] at unconfigured
  rw [callFilter, unconfigured]

/-- A filter that is added reaches the plugin if it is applied. -/
theorem FiltersKept.addFilter (kept : FiltersKept config holds manager) {called : Manager σ}
    {session : ClientSession} (found : manager.sessionsMap.get? clientId = some session)
    (fresh : filter ∉ filtersOf session filter.eventId) (applied : Prop)
    (applies : session.subEvents.contains filter.eventId = true → applied)
    (configured : applied → (config.getEventConfig filter.eventId).isSome = true)
    (sessions : called.sessionsMap = manager.sessionsMap)
    (grown : ∀ other, holds called.world other ↔
      (applied ∧ other = convertFilter filter clientId) ∨ holds manager.world other) :
    FiltersKept config holds (called.addFilter filter clientId) := by
  have own := kept clientId
  rw [found] at own
  refine kept.of_own clientId (fun other ne => ?_) (fun other foreign => ?_) ?_
  · rw [addFilter_get?, if_neg ne, sessions]
  · refine (grown other).trans (or_iff_right ?_)
    rintro ⟨-, rfl⟩
    exact foreign rfl
  · rw [addFilter_get?, if_pos rfl, sessions, found]
    exact own.withFilter fresh applies configured grown

theorem FiltersKept.insertSubscribeMute (kept : FiltersKept config holds manager)
    (maintains : env.MaintainsFilters holds) :
    FiltersKept config holds (manager.insertSubscribeMute config env filter clientId).2 := by
  rw [Manager.insertSubscribeMute, checkInsertMute]
  cases found : manager.sessionsMap.get? clientId with
  | none => exact kept
  | some session =>
      rw [subscribes_of_get? found]
      by_cases old : filter ∈ filtersOf session filter.eventId
      · simp only [List.contains_iff_mem.mpr old, if_true]
        exact kept
      · have fresh : (filtersOf session filter.eventId).contains filter = false := by
          simpa using old
        simp only [fresh, Bool.false_eq_true, if_false, ne_eq, not_true_eq_false]
        split_ifs with unsubscribed succeeded
        · refine kept.addFilter found old False (fun subscribed => ?_) False.elim rfl
            fun other => by simp
          simp [subscribed] at unsubscribed
        · by_cases configured : (config.getEventConfig filter.eventId).isSome = true
          · refine kept.addFilter found old True (fun _ => trivial)
              (fun _ => configured) (callFilter_sessionsMap _ filter) fun other => ?_
            rw [insertMute_holds maintains, configured]
            simp
          · rw [insertMute, callFilter_unconfigured configured] at succeeded
            simp [Code.badParam, Code.success] at succeeded
        · by_cases configured : (config.getEventConfig filter.eventId).isSome = true
          · exact absurd (insertMute_success maintains configured) succeeded
          · rw [insertMute, callFilter_unconfigured configured]
            exact kept

/-- A filter whose event is not subscribed is removed from the session alone. -/
def RemovesCached (holds : σ → SecurityCollectorEventMuteFilter → Prop) (manager : Manager σ)
    (filter : EventMuteFilter) (clientId : String) : Prop :=
  manager.isFilterInSession clientId filter = true →
    manager.subscribes clientId filter.eventId = false →
      ¬holds manager.world (convertFilter filter clientId)

/-- A filter that is removed leaves the session and the plugin. -/
theorem FiltersKept.eraseFilter (kept : FiltersKept config holds manager) {called : Manager σ}
    {session : ClientSession} (found : manager.sessionsMap.get? clientId = some session)
    (sessions : called.sessionsMap = manager.sessionsMap)
    (shrunk : ∀ other, holds called.world other ↔
      other ≠ convertFilter filter clientId ∧ holds manager.world other) :
    FiltersKept config holds (called.eraseFilterFromSession clientId filter) := by
  have own := kept clientId
  rw [found] at own
  refine kept.of_own clientId (fun other ne => ?_) (fun other foreign => ?_) ?_
  · rw [eraseFilterFromSession_get?, if_neg ne, sessions]
  · refine (shrunk other).trans (and_iff_right ?_)
    rintro rfl
    exact foreign rfl
  · rw [eraseFilterFromSession_get?, if_pos rfl, sessions, found]
    exact own.withoutFilter shrunk

theorem FiltersKept.removeSubscribeMute (kept : FiltersKept config holds manager)
    (maintains : env.MaintainsFilters holds)
    (cached : RemovesCached holds manager filter clientId) :
    FiltersKept config holds (manager.removeSubscribeMute config env filter clientId).2 := by
  rw [Manager.removeSubscribeMute]
  cases recorded : manager.isFilterInSession clientId filter with
  | false => exact kept
  | true =>
      obtain ⟨session, found, mem⟩ := (Option.any_eq_true _ _).mp recorded
      cases subscribed : manager.subscribes clientId filter.eventId with
      | false =>
          have missing := cached recorded subscribed
          refine kept.eraseFilter found rfl fun other => (and_iff_right_of_imp ?_).symm
          rintro has rfl
          exact missing has
      | true =>
          rw [subscribes_of_get? found] at subscribed
          have own := kept clientId
          rw [found] at own
          have has := own.pushed session rfl _ subscribed filter (List.contains_iff_mem.mp mem)
          have configured := own.configured _ has rfl
          have removed := removeMute_success manager clientId maintains configured
          dsimp only
          rw [if_neg (by simp), if_neg (by simp), if_neg (not_not.mpr removed)]
          refine kept.eraseFilter found (callFilter_sessionsMap _ filter) fun other => ?_
          rw [removeMute_holds maintains]
          exact and_congr_left fun _ => ⟨fun ne => ne configured, fun ne _ => ne⟩

theorem FiltersKept.destoryClient (kept : FiltersKept config holds manager)
    (maintains : env.MaintainsFilters holds) :
    FiltersKept config holds (manager.destoryClient config env clientId).2 := by
  have sessions := destoryClient_sessionsMap config env manager clientId
  rw [Manager.destoryClient, leaveClient] at sessions ⊢
  cases found : manager.sessionsMap.get? clientId with
  | none => exact kept
  | some session =>
      rw [found] at sessions
      have own := kept clientId
      rw [found] at own
      have shrunk (other : SecurityCollectorEventMuteFilter) :
          holds (removeMutes config env clientId session.filters (unSubscribeAll config env
              session.subEvents.keys (manager.eraseSession clientId))).world other ↔
            (∀ filter ∈ session.filters, (config.getEventConfig filter.eventId).isSome = true →
              other ≠ convertFilter filter clientId) ∧ holds manager.world other := by
        rw [removeMutes_holds maintains, unSubscribeAll_holds maintains]
        rfl
      refine kept.erase sessions (fun other foreign => ?_) fun other has flag => ?_
      · refine (shrunk other).trans (and_iff_right ?_)
        rintro filter - - rfl
        exact foreign rfl
      · obtain ⟨removed, had⟩ := (shrunk other).mp has
        obtain ⟨_, present, record, mem, rfl⟩ := own.recorded other had flag
        obtain rfl := Option.some.inj present
        exact removed record (ClientSession.mem_filters.mpr ⟨_, mem⟩) (own.configured _ had rfl) rfl

/-- The plugin is not told of the end of a client without name. -/
def NamelessUnfiltered (holds : σ → SecurityCollectorEventMuteFilter → Prop)
    (manager : Manager σ) (callback : Address) : Prop :=
  ∀ entry ∈ manager.sessionsMap.entries.find? fun entry => entry.2.callback = callback,
    entry.1 = "" → ∀ filter ∈ entry.2.filters, ¬holds manager.world (convertFilter filter "")

variable (config) in
theorem removeSubscribeRecordOnRemoteDied_holds (maintains : env.MaintainsFilters holds)
    {callback : Address} {entry : String × ClientSession}
    (owner : (manager.sessionsMap.entries.find? fun entry => entry.2.callback = callback) =
      some entry) (other : SecurityCollectorEventMuteFilter) :
    holds (manager.removeSubscribeRecordOnRemoteDied config env callback).world other ↔
      (entry.1 ≠ "" → other.instanceFlag ≠ entry.1) ∧ holds manager.world other := by
  have left : manager.leaveCallback callback =
      .continues (manager.eraseSession entry.1, entry.1, entry.2.subEvents.keys) := by
    rw [leaveCallback, owner]
  rw [removeSubscribeRecordOnRemoteDied, left]
  dsimp only
  rw [unSubscribeAll_holds maintains, removeSdkAllEventFilter_holds maintains]
  rfl

theorem FiltersKept.removeSubscribeRecordOnRemoteDied (kept : FiltersKept config holds manager)
    (maintains : env.MaintainsFilters holds) {callback : Address}
    (nameless : NamelessUnfiltered holds manager callback) :
    FiltersKept config holds (manager.removeSubscribeRecordOnRemoteDied config env callback) := by
  have sessions := removeSubscribeRecordOnRemoteDied_sessionsMap config env manager callback
  cases owner : manager.sessionsMap.entries.find? fun entry => entry.2.callback = callback with
  | none =>
      rw [Manager.removeSubscribeRecordOnRemoteDied, leaveCallback, owner]
      exact kept
  | some entry =>
      rw [owner] at sessions
      have shrunk := removeSubscribeRecordOnRemoteDied_holds config maintains owner
      refine kept.erase sessions (fun other foreign => ?_) fun other has flag => ?_
      · exact (shrunk other).trans (and_iff_right fun _ => foreign)
      · obtain ⟨removed, had⟩ := (shrunk other).mp has
        have unnamed : entry.1 = "" := by
          by_contra named
          exact removed named flag
        have own := kept entry.1
        rw [SortedMap.mem_entries_iff.mp (List.mem_of_find?_eq_some owner)] at own
        refine own.absent_of_filters (fun filter mem => ?_) other had flag
        rw [unnamed]
        exact nameless entry owner unnamed filter mem

theorem FiltersKept.creatClient (kept : FiltersKept config holds manager) (eventGroup : String)
    (callerPid : Int) (callback : Address) :
    FiltersKept config holds (manager.creatClient eventGroup clientId callerPid callback).2 := by
  rcases creatClient_cases manager clientId eventGroup callerPid callback with
    ⟨-, refused⟩ | ⟨-, absent, created⟩
  · rw [refused]
    exact kept
  · have own := kept clientId
    rw [absent] at own
    rw [created, withSession, if_neg (by simp [SortedMap.contains, absent])]
    exact kept.insert rfl rfl (own.created rfl rfl)

/-- An operation on the sessions or on their filters. -/
inductive MuteOperation where
  | operation (operation : Operation)
  | insertSubscribeMute (filter : EventMuteFilter) (clientId : String)
  | removeSubscribeMute (filter : EventMuteFilter) (clientId : String)
  deriving DecidableEq

/-- One operation after another, on sessions and on filters. -/
def operateMutes (config : ConfigData) (env : Externals σ) :
    Transition (Manager σ) MuteOperation := fun manager operation =>
  match operation with
  | .operation operation => some (SubscribeSystem.perform config env manager operation).2
  | .insertSubscribeMute filter clientId =>
      some (manager.insertSubscribeMute config env filter clientId).2
  | .removeSubscribeMute filter clientId =>
      some (manager.removeSubscribeMute config env filter clientId).2

/-- The plugin has the filters of every event that a session subscribes, and no filter that no
session has. -/
structure InStep (holds : σ → SecurityCollectorEventMuteFilter → Prop) (manager : Manager σ) :
    Prop where
  subscribed : ∀ clientId session eventId, manager.sessionsMap.get? clientId = some session →
    session.subEvents.contains eventId = true → ∀ filter : SecurityCollectorEventMuteFilter,
      (holds manager.world filter ∧ filter.instanceFlag = clientId ∧ filter.eventId = eventId) ↔
        ∃ own ∈ filtersOf session eventId, filter = convertFilter own clientId
  recorded : ∀ filter, holds manager.world filter →
    ∃ session, manager.sessionsMap.get? filter.instanceFlag = some session ∧
      ∃ own ∈ filtersOf session filter.eventId, filter = convertFilter own filter.instanceFlag

/-- The operation takes none of the paths that miss the plugin with a filter that they concern. -/
def StaysInStep (config : ConfigData) (env : Externals σ)
    (holds : σ → SecurityCollectorEventMuteFilter → Prop) (manager : Manager σ) :
    MuteOperation → Prop
  | .operation (.insertSubscribeRecordWith info clientId) =>
      HandsNothingOver config env holds manager info.eventId clientId
  | .operation (.removeSubscribeRecord eventId clientId cleanupSession) =>
      cleanupSession = true → EndsUnfiltered config env holds manager eventId clientId
  | .operation (.removeSubscribeRecordOnRemoteDied callback) =>
      NamelessUnfiltered holds manager callback
  | .removeSubscribeMute filter clientId => RemovesCached holds manager filter clientId
  | _ => True

theorem FiltersKept.inStep (kept : FiltersKept config holds manager) : InStep holds manager where
  subscribed clientId session eventId found contains filter := by
    have own := kept clientId
    rw [found] at own
    constructor
    · rintro ⟨has, flag, rfl⟩
      obtain ⟨_, present, record⟩ := own.recorded filter has flag
      obtain rfl := Option.some.inj present
      exact record
    · rintro ⟨record, mem, rfl⟩
      exact ⟨own.pushed session rfl eventId contains record mem, rfl,
        (own.wellFiled session rfl).event eventId record mem⟩
  recorded filter has := (kept filter.instanceFlag).recorded filter has rfl

theorem FiltersKept.operate (kept : FiltersKept config holds manager)
    (maintains : env.MaintainsFilters holds) {operation : MuteOperation} {after : Manager σ}
    (stays : StaysInStep config env holds manager operation)
    (taken : operateMutes config env manager operation = some after) :
    FiltersKept config holds after := by
  cases operation with
  | insertSubscribeMute filter clientId =>
      obtain rfl := Option.some.inj taken
      exact kept.insertSubscribeMute maintains
  | removeSubscribeMute filter clientId =>
      obtain rfl := Option.some.inj taken
      exact kept.removeSubscribeMute maintains stays
  | operation operation =>
      obtain rfl := Option.some.inj taken
      cases operation with
      | creatClient eventGroup clientId callerPid callback =>
          exact kept.creatClient eventGroup callerPid callback
      | insertSubscribeRecord eventId clientId => exact kept.insertSubscribeRecord maintains
      | insertSubscribeRecordWith info clientId =>
          exact kept.insertSubscribeRecordWith maintains stays
      | removeSubscribeRecord eventId clientId cleanupSession =>
          exact kept.removeSubscribeRecordCore maintains stays
      | destoryClient clientId => exact kept.destoryClient maintains
      | removeSubscribeRecordOnRemoteDied callback =>
          exact kept.removeSubscribeRecordOnRemoteDied maintains stays

/-! ## Each of the four paths breaks the agreement -/

theorem InStep.handsNothingOver (maintains : env.MaintainsFilters holds) {info : SubscribeInfo}
    (inStep : InStep holds (manager.insertSubscribeRecordWith config env info clientId).2) :
    HandsNothingOver config env holds manager info.eventId clientId := by
  intro fresh starts filter mem
  have sessions := insertSubscribeRecordWith_sessionsMap config env manager clientId info
  rw [if_pos ⟨fresh, starts⟩] at sessions
  rw [← cachedFilters_sessionFor info] at mem
  have agree := inStep.subscribed clientId _ info.eventId
    (by rw [sessions, SortedMap.get?_insert_self]) (by simp [ClientSession.withEvent])
    (convertFilter filter clientId)
  have has := (agree.mpr ⟨filter, mem, rfl⟩).1
  rwa [insertSubscribeRecordWith_holds config manager clientId maintains] at has

theorem InStep.endsUnfiltered (maintains : env.MaintainsFilters holds) {cleanupSession : Bool}
    (inStep : InStep holds
      (manager.removeSubscribeRecordCore config env eventId clientId cleanupSession).2)
    (cleanup : cleanupSession = true) :
    EndsUnfiltered config env holds manager eventId clientId := by
  intro session found had emptied stopped filter mem has
  have sessions := removeSubscribeRecordCore_of_subscribes config env found had cleanupSession
  rw [if_neg (not_not.mpr stopped), if_pos ⟨cleanup, emptied⟩] at sessions
  rw [← @removeSubscribeRecordCore_holds σ config env manager clientId eventId holds maintains
    cleanupSession] at has
  obtain ⟨other, present, -⟩ := inStep.recorded _ has
  rw [sessions] at present
  simp [convertFilter] at present

theorem InStep.removesCached (kept : FiltersKept config holds manager)
    (inStep : InStep holds (manager.removeSubscribeMute config env filter clientId).2) :
    RemovesCached holds manager filter clientId := by
  intro recorded unsubscribed has
  obtain ⟨session, found, -⟩ := (Option.any_eq_true _ _).mp recorded
  simp only [removeSubscribeMute, recorded, unsubscribed, Bool.not_true, Bool.not_false,
    Bool.false_eq_true, if_false, if_true] at inStep
  obtain ⟨other, present, own, mem, same⟩ := inStep.recorded _ has
  rw [eraseFilterFromSession_get?] at present
  simp only [convertFilter, found, if_true, Option.map_some, Option.some.injEq] at present
  obtain rfl := present
  have filed := (kept clientId).wellFiled session found
  exact (filed.mem_withoutFilter.mp mem).1 (convertFilter_injective same).symm

theorem InStep.namelessUnfiltered (maintains : env.MaintainsFilters holds) {callback : Address}
    (inStep : InStep holds (manager.removeSubscribeRecordOnRemoteDied config env callback)) :
    NamelessUnfiltered holds manager callback := by
  intro entry owner unnamed filter mem has
  have sessions := removeSubscribeRecordOnRemoteDied_sessionsMap config env manager callback
  rw [owner] at sessions
  have still := (removeSubscribeRecordOnRemoteDied_holds config maintains owner
    (convertFilter filter "")).mpr ⟨fun named => absurd unnamed named, has⟩
  obtain ⟨other, present, -⟩ := inStep.recorded _ still
  rw [sessions] at present
  simp [convertFilter, unnamed] at present

theorem FiltersKept.stays_of_inStep (kept : FiltersKept config holds manager)
    (maintains : env.MaintainsFilters holds) {operation : MuteOperation} {after : Manager σ}
    (taken : operateMutes config env manager operation = some after)
    (inStep : InStep holds after) : StaysInStep config env holds manager operation := by
  cases operation with
  | insertSubscribeMute filter clientId => exact trivial
  | removeSubscribeMute filter clientId =>
      obtain rfl := Option.some.inj taken
      exact inStep.removesCached kept
  | operation operation =>
      obtain rfl := Option.some.inj taken
      cases operation with
      | insertSubscribeRecordWith info clientId => exact inStep.handsNothingOver maintains
      | removeSubscribeRecord eventId clientId cleanupSession =>
          exact inStep.endsUnfiltered maintains
      | removeSubscribeRecordOnRemoteDied callback => exact inStep.namelessUnfiltered maintains
      | creatClient | insertSubscribeRecord | destoryClient => exact trivial

/-- Starting without filters, the plugin and the sessions agree after every operation of a run
exactly when no operation takes one of the four paths with a filter that they concern. -/
theorem filters_stay_in_step (maintains : env.MaintainsFilters holds) {world : σ}
    (empty : ∀ filter, ¬holds world filter) (operations : List MuteOperation) :
    Transition.Visits (operateMutes config env) (InStep holds) { world } operations ↔
      Transition.Along (operateMutes config env) (StaysInStep config env holds) { world }
        operations := by
  have start : FiltersKept config holds { world := world } := fun clientId =>
    .gone fun filter has => (empty filter has).elim
  refine Transition.visits_iff_along (fun manager operation => ?_) ?_ ?_
    (fun manager kept => kept.inStep) start
  · cases operation <;> exact ⟨_, rfl⟩
  · intro before after operation kept stays taken
    exact kept.operate maintains stays taken
  · intro before after operation kept taken
    exact ⟨kept.stays_of_inStep maintains taken, fun stays =>
      (kept.operate maintains stays taken).inStep⟩

/-- The plugin lists its filters. -/
def listingPlugin : FilterPlugin (List SecurityCollectorEventMuteFilter) where
  setEventFilter filter world := (.success, filter :: world)
  removeEventFilter filter world := (.success, world.filter fun other => other ≠ filter)
  removeSdkAllEventFilter clientId world :=
    world.filter fun other => other.instanceFlag ≠ clientId

/-- Every collector call succeeds, and the plugin lists its filters. -/
def listingExternals : Externals (List SecurityCollectorEventMuteFilter) where
  subscribeCollectors _ world := (.success, world)
  subscribeCollectorsBySticky _ world := (.success, world)
  unsubscribeCollectors _ world := (.success, world)
  scSubscribe _ world := (.success, world)
  scUnsubscribe _ world := (.success, world)
  eventFilter := some listingPlugin

def listed (world : List SecurityCollectorEventMuteFilter)
    (filter : SecurityCollectorEventMuteFilter) : Prop :=
  filter ∈ world

instance (world : List SecurityCollectorEventMuteFilter) : DecidablePred (listed world) :=
  fun filter => inferInstanceAs (Decidable (filter ∈ world))

theorem listing_maintains : listingExternals.MaintainsFilters listed where
  plugin := by
    refine ⟨listingPlugin, rfl, fun _ _ => rfl, ?_, fun _ _ => rfl, ?_, ?_⟩
    · intro filter world other
      simp [listed, listingPlugin]
    · intro filter world other
      simp [listed, listingPlugin, and_comm]
    · intro clientId world other
      simp [listed, listingPlugin, and_comm]
  subscribeCollectors _ _ := rfl
  subscribeCollectorsBySticky _ _ := rfl
  unsubscribeCollectors _ _ := rfl
  scSubscribe _ _ := rfl
  scUnsubscribe _ _ := rfl

instance {manager : Manager σ} [∀ world, DecidablePred (holds world)] :
    ∀ operation : MuteOperation, Decidable (StaysInStep config env holds manager operation)
  | .operation (.insertSubscribeRecordWith _ _) => inferInstanceAs (Decidable (_ → _ → ∀ _ ∈ _, _))
  | .operation (.removeSubscribeRecord _ _ _) =>
      inferInstanceAs (Decidable (_ → ∀ _ ∈ _, _ → _ → _ → ∀ _ ∈ _, ¬_))
  | .operation (.removeSubscribeRecordOnRemoteDied _) =>
      inferInstanceAs (Decidable (∀ _ ∈ _, _ → ∀ _ ∈ _, ¬_))
  | .removeSubscribeMute _ _ => inferInstanceAs (Decidable (_ → _ → ¬_))
  | .insertSubscribeMute _ _ | .operation (.creatClient _ _ _ _)
  | .operation (.insertSubscribeRecord _ _) | .operation (.destoryClient _) =>
      inferInstanceAs (Decidable True)

/-- Event 7 is subscribed through a collector of this process. -/
def mutableConfig : ConfigData where
  eventMap := SortedMap.empty.insert 7
    { eventId := 7, eventType := .subscribeColl, prog := securityGuardProg }

/-- A filter on event 7. -/
def muteSeven : EventMuteFilter :=
  { eventId := 7, isInclude := true, type := 1, mutes := SortedMap.empty.insert "/data" () }

/-- A client caches a filter, subscribes its event, removes the filter and leaves. -/
def cacheAndSubscribe : List MuteOperation :=
  [.operation (.creatClient "auditGroup" "a" 100 10), .insertSubscribeMute muteSeven "a",
    .operation (.insertSubscribeRecord 7 "a"), .removeSubscribeMute muteSeven "a",
    .operation (.destoryClient "a")]

/-- The cached filter of a client reaches the plugin and leaves it again. -/
theorem filters_stay_in_step_cacheAndSubscribe :
    Transition.Visits (operateMutes mutableConfig listingExternals) (InStep listed)
      { world := [] } cacheAndSubscribe := by
  have stays : Transition.Along (operateMutes mutableConfig listingExternals)
      (StaysInStep mutableConfig listingExternals listed) { world := [] } cacheAndSubscribe := by
    decide +kernel
  exact (filters_stay_in_step listing_maintains (fun _ => List.not_mem_nil)
    cacheAndSubscribe).mpr stays

/-- A client sets a filter, unsubscribes its event and removes the filter. -/
def unsubscribeAndRemove : List MuteOperation :=
  [.operation (.creatClient "auditGroup" "a" 100 10), .operation (.insertSubscribeRecord 7 "a"),
    .insertSubscribeMute muteSeven "a", .operation (.removeSubscribeRecord 7 "a" false),
    .removeSubscribeMute muteSeven "a"]

/-- The plugin keeps a filter that is removed after its event was unsubscribed. -/
theorem plugin_keeps_removed_filter :
    ¬∀ (operations : List MuteOperation)
        (final : Manager (List SecurityCollectorEventMuteFilter)),
      Transition.run (operateMutes mutableConfig listingExternals) { world := [] } operations =
        some final → InStep listed final := by
  intro agreement
  have evaluated : (Transition.run (operateMutes mutableConfig listingExternals) { world := [] }
      unsubscribeAndRemove).any (fun final =>
        convertFilter muteSeven "a" ∈ final.world ∧
          ((final.sessionsMap.get? "a").all fun session => filtersOf session 7 = []) = true) =
            true := by
    decide +kernel
  obtain ⟨final, reach, found⟩ := (Option.any_eq_true _ _).mp evaluated
  obtain ⟨has, empty⟩ := of_decide_eq_true found
  obtain ⟨session, present, own, mem, -⟩ := (agreement _ final reach).recorded _ has
  have here : final.sessionsMap.get? "a" = some session := present
  rw [here, Option.all_some, decide_eq_true_eq] at empty
  have none : own ∈ filtersOf session 7 := mem
  rw [empty] at none
  exact List.not_mem_nil none

end Manager

end SecurityGuard
