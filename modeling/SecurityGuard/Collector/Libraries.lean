import SecurityGuard.Collector.Loading
import SecurityGuard.Foundation.Execution

/-!
# Libraries of collectors

Every operation that needs a collector opens its library and keeps one loader for each event until
`CloseLib` closes all of them.  A loader of an event that has one already is not kept, and a loader
for several new events is kept several times.  A ledger lists the libraries that were opened and
closed.
-/

namespace SecurityGuard

/-- A world and the libraries that were opened in it. -/
structure LibraryWorld (σ : Type) where
  world : σ
  opened : List String := []

namespace LibraryWorld

variable {σ α : Type}

/-- A call that opens no library. -/
def call (outside : σ → α × σ) (libraries : LibraryWorld σ) : α × LibraryWorld σ :=
  let answer := outside libraries.world
  (answer.1, { libraries with world := answer.2 })

/-- Write a library down that was opened. -/
def loadLib (load : String → σ → Code × σ) (path : String) (libraries : LibraryWorld σ) :
    Code × LibraryWorld σ :=
  let answer := load path libraries.world
  (answer.1,
    { world := answer.2
      opened :=
        if answer.1 = .success then libraries.opened ++ [path] else libraries.opened })

end LibraryWorld

/-- The calls, with the ledger. -/
def CollectorCalls.recording {σ : Type} (env : CollectorCalls σ) :
    CollectorCalls (LibraryWorld σ) where
  getCollectorPath eventId := LibraryWorld.call (env.getCollectorPath eventId)
  loadLib := LibraryWorld.loadLib env.loadLib
  callGetCollector path := LibraryWorld.call (env.callGetCollector path)
  query path ruler := LibraryWorld.call (env.query path ruler)
  batchQuery path rulers := LibraryWorld.call (env.batchQuery path rulers)
  loadCollectorService := LibraryWorld.call env.loadCollectorService
  sendQuery rulers := LibraryWorld.call (env.sendQuery rulers)
  sendQueryBatch rulers := LibraryWorld.call (env.sendQueryBatch rulers)
  queryEventByEventId eventId := LibraryWorld.call (env.queryEventByEventId eventId)
  queryEventByEventIdAndDate id eventIds beginTime endTime :=
    LibraryWorld.call (env.queryEventByEventIdAndDate id eventIds beginTime endTime)
  order groups libraries := env.order groups libraries.world
  order_perm groups libraries := env.order_perm groups libraries.world
  start eventId := LibraryWorld.call (env.start eventId)
  stop eventId := LibraryWorld.call (env.stop eventId)

namespace QueryState

/-- The libraries that `CloseLib` closes, one for each loader that is kept. -/
def toClose {σ : Type} (state : QueryState σ) : List String :=
  state.collection.needCloseLibMap.entries.map Prod.snd

/-- A library that is opened for an event is the only one kept for it. -/
def OpensAlone {σ : Type} (env : CollectorCalls σ) (state : QueryState σ) (path : String)
    (eventId : Int) : Prop :=
  (env.loadLib path state.world).1 = .success →
    state.collection.needCloseLibMap.get? eventId = none

/-- A library that is opened for a group is kept for one event of the group. -/
def OpensForOne {σ : Type} (env : CollectorCalls σ) (state : QueryState σ) (path : String)
    (rulers : List SecurityEventRuler) : Prop :=
  (env.loadLib path state.world).1 = .success →
    ∃ eventId ∈ rulers.map SecurityEventRuler.eventId,
      state.collection.needCloseLibMap.get? eventId = none ∧
        ∀ other ∈ rulers.map SecurityEventRuler.eventId,
          state.collection.needCloseLibMap.get? other = none → other = eventId

/-- Every library that `loadEach` opens is kept. -/
def LoadsAlone {σ : Type} (env : CollectorCalls σ) (loop : EventLoop σ) :
    List Int → QueryState σ → Prop
  | [], _ => True
  | eventId :: rest, state =>
      let entered := loop.enter eventId state
      if entered.collection.isCollectorStarted eventId then
        LoadsAlone env loop rest (loop.running eventId entered)
      else
        let answer := entered.call (env.getCollectorPath eventId)
        match answer.1 with
        | .error _ => True
        | .ok path =>
            let loaded := answer.2.loadCollectorOf env eventId path
            answer.2.OpensAlone env path eventId ∧
              (loaded.1 = .success → LoadsAlone env loop rest loaded.2)

/-- Every library that `queryEach` opens is kept. -/
def QueriesAlone {σ : Type} (env : CollectorCalls σ) :
    List SecurityEventRuler → QueryState σ → Prop
  | [], _ => True
  | ruler :: rest, state =>
      let answer := state.call (env.getCollectorPath ruler.eventId)
      match answer.1 with
      | .error _ => True
      | .ok path =>
          let loaded := answer.2.loadCollector env.toQueryCalls path ruler
          answer.2.OpensAlone env path ruler.eventId ∧
            (loaded.1 = .success → QueriesAlone env rest loaded.2)

/-- Every library that `queryGroups` opens is kept once. -/
def GroupsAlone {σ : Type} (env : CollectorCalls σ) :
    List (String × List SecurityEventRuler) → QueryState σ → Prop
  | [], _ => True
  | group :: rest, state =>
      state.OpensForOne env group.1 group.2 ∧
        GroupsAlone env rest (state.loadAndQueryBySoPath env.toQueryCalls group.1 group.2).2

variable {σ : Type} {env : CollectorCalls σ} {before middle after : QueryState (LibraryWorld σ)}
  {closed : List String}

/-- The opened libraries are those that were closed and those that are to be closed. -/
def Balanced (closed : List String) (state : QueryState (LibraryWorld σ)) : Prop :=
  (closed ++ state.toClose).Perm state.world.opened

/-- The kept loaders and the ledger are the same. -/
def SameBooks (before after : QueryState (LibraryWorld σ)) : Prop :=
  after.collection.needCloseLibMap = before.collection.needCloseLibMap ∧
    after.world.opened = before.world.opened

theorem SameBooks.trans (first : SameBooks before middle) (second : SameBooks middle after) :
    SameBooks before after :=
  ⟨second.1.trans first.1, second.2.trans first.2⟩

theorem Balanced.same (balanced : Balanced closed before) (same : SameBooks before after) :
    Balanced closed after := by
  rw [Balanced, toClose, same.1, same.2]
  exact balanced

theorem getCollector_same (eventId : Int) (state : QueryState (LibraryWorld σ)) :
    SameBooks state (state.getCollector env.recording eventId).2 := by
  rw [getCollector]
  cases state.collection.eventIdToLoaderMap.get? eventId with
  | none => exact ⟨rfl, rfl⟩
  | some path => exact ⟨rfl, rfl⟩

theorem stopEach_same (events : List Int) (code : Code) (state : QueryState (LibraryWorld σ)) :
    SameBooks state (stopEach env.recording events code state).2 := by
  induction events generalizing code state with
  | nil => exact ⟨rfl, rfl⟩
  | cons event rest ih =>
      have got : SameBooks state (state.getCollector env.recording event).2 :=
        getCollector_same event state
      rw [stopEach]
      dsimp only
      split_ifs
      · exact got.trans (ih _ _)
      · exact got.trans (SameBooks.trans ⟨rfl, rfl⟩ (ih _ _))
      · exact got.trans (SameBooks.trans ⟨rfl, rfl⟩ (ih _ _))

theorem releaseEach_needCloseLibMap (events : List Int) (collection : DataCollection) :
    (DataCollection.releaseEach events collection).2.needCloseLibMap =
      collection.needCloseLibMap := by
  induction events generalizing collection with
  | nil => rfl
  | cons event rest ih =>
      have decremented : (collection.decrementSubscribeCount event).2.needCloseLibMap =
          collection.needCloseLibMap := by
        rw [DataCollection.decrementSubscribeCount]
        split
        · rfl
        · dsimp only
          split_ifs <;> rfl
      rw [DataCollection.releaseEach]
      dsimp only
      split_ifs
      · exact ih _
      · exact (ih _).trans decremented
      · exact (ih _).trans decremented

theorem unsubscribeCollectorsLocked_same (eventIds : List Int)
    (state : QueryState (LibraryWorld σ)) :
    SameBooks state (state.unsubscribeCollectorsLocked env.recording eventIds).2 := by
  have released : SameBooks state
      { state with collection := (DataCollection.releaseEach eventIds state.collection).2 } :=
    ⟨releaseEach_needCloseLibMap eventIds state.collection, rfl⟩
  exact released.trans (stopEach_same _ _ _)

theorem stopCollectorsLocked_same (eventIds : List Int) (state : QueryState (LibraryWorld σ)) :
    SameBooks state (state.stopCollectorsLocked env.recording eventIds).2 :=
  stopEach_same _ _ _

theorem rebindStickyCollector_same (eventId : Int) (state : QueryState (LibraryWorld σ)) :
    SameBooks state (state.rebindStickyCollector env.recording eventId) := by
  have got : SameBooks state (state.getCollector env.recording eventId).2 :=
    getCollector_same eventId state
  rw [rebindStickyCollector]
  split_ifs
  · exact got
  · exact got.trans ⟨rfl, rfl⟩

/-- The steps of a loop beside loading open nothing. -/
structure EventLoop.Same (loop : EventLoop (LibraryWorld σ)) : Prop where
  enter : ∀ eventId state, SameBooks state (loop.enter eventId state)
  running : ∀ eventId state, SameBooks state (loop.running eventId state)
  rollback : ∀ eventIds state, SameBooks state (loop.rollback eventIds state)

theorem incrementSubscribeCount_same (eventId : Int) (state : QueryState (LibraryWorld σ)) :
    SameBooks state (state.incrementSubscribeCount eventId) := by
  refine ⟨?_, rfl⟩
  rw [incrementSubscribeCount]
  dsimp only
  rw [DataCollection.incrementSubscribeCount]
  split <;> rfl

theorem subscribing_same : (subscribing env.recording).Same where
  enter := incrementSubscribeCount_same
  running _ _ := ⟨rfl, rfl⟩
  rollback := unsubscribeCollectorsLocked_same

theorem subscribingBySticky_same : (subscribingBySticky env.recording).Same where
  enter := incrementSubscribeCount_same
  running := rebindStickyCollector_same
  rollback := unsubscribeCollectorsLocked_same

theorem starting_same : (starting env.recording).Same where
  enter _ _ := ⟨rfl, rfl⟩
  running _ _ := ⟨rfl, rfl⟩
  rollback := stopCollectorsLocked_same

/-- A library that was opened is balanced by one loader that is kept for it. -/
theorem Balanced.opened (balanced : Balanced closed before) (path : String) {eventId : Int}
    (fresh : before.collection.needCloseLibMap.get? eventId = none)
    (kept : after.collection.needCloseLibMap =
      before.collection.needCloseLibMap.insert eventId path)
    (opened : after.world.opened = before.world.opened ++ [path]) : Balanced closed after := by
  have bound := SortedMap.perm_erase
    (before.collection.needCloseLibMap.get?_insert_self eventId path)
  rw [SortedMap.erase_insert, SortedMap.erase_of_absent fresh] at bound
  have grown : after.toClose.Perm (path :: before.toClose) := by
    rw [toClose, kept]
    exact bound.map Prod.snd
  rw [Balanced, opened]
  have counted : (closed ++ after.toClose).Perm (path :: (closed ++ before.toClose)) :=
    (grown.append_left closed).trans List.perm_middle
  have recorded : (path :: before.world.opened).Perm (before.world.opened ++ [path]) :=
    (List.perm_append_singleton path _).symm
  exact counted.trans ((balanced.cons path).trans recorded)

theorem Balanced.refused (balanced : Balanced closed before) {path : String}
    (refused : (before.call (env.recording.loadLib path)).1 ≠ .success) :
    Balanced closed (before.call (env.recording.loadLib path)).2 :=
  balanced.same ⟨rfl, if_neg refused⟩

theorem Balanced.keepLib (balanced : Balanced closed before) {path : String}
    (ruler : SecurityEventRuler) (alone : before.OpensAlone env.recording path ruler.eventId)
    (opened : (before.call (env.recording.loadLib path)).1 = .success) :
    Balanced closed ((before.call (env.recording.loadLib path)).2.keepLib path ruler) := by
  have fresh := alone opened
  refine balanced.opened path fresh ?_ (if_pos opened)
  have absent : before.collection.needCloseLibMap.contains ruler.eventId = false := by
    rw [SortedMap.contains, fresh]
    rfl
  rw [QueryState.keepLib]
  dsimp only
  rw [DataCollection.emplace, call, absent]
  rfl

theorem Balanced.loadCollectorOf (balanced : Balanced closed before) {eventId : Int}
    {path : String} (alone : before.OpensAlone env.recording path eventId) :
    Balanced closed (before.loadCollectorOf env.recording eventId path).2 := by
  rw [QueryState.loadCollectorOf]
  dsimp only
  split_ifs with failed
  · exact balanced.refused failed
  all_goals exact (balanced.keepLib { eventId } alone (not_not.mp failed)).same ⟨rfl, rfl⟩

theorem Balanced.loadCollector (balanced : Balanced closed before) {path : String}
    {ruler : SecurityEventRuler} (alone : before.OpensAlone env.recording path ruler.eventId) :
    Balanced closed (before.loadCollector env.recording.toQueryCalls path ruler).2 := by
  rw [QueryState.loadCollector]
  dsimp only
  split_ifs with failed
  · exact balanced.refused failed
  all_goals exact (balanced.keepLib ruler alone (not_not.mp failed)).same ⟨rfl, rfl⟩

theorem Balanced.loadEach {loop : EventLoop (LibraryWorld σ)} (same : loop.Same)
    (balanced : Balanced closed before) {events : List Int}
    (alone : LoadsAlone env.recording loop events before) (loaded : List Int) :
    Balanced closed (loadEach env.recording loop events loaded before).2 := by
  induction events generalizing before loaded with
  | nil => exact balanced
  | cons event rest ih =>
      have entered := balanced.same (same.enter event before)
      rw [LoadsAlone] at alone
      rw [QueryState.loadEach]
      dsimp only at alone ⊢
      split_ifs at alone ⊢ with started
      · exact ih (entered.same (same.running event _)) alone loaded
      · have answered : Balanced closed ((loop.enter event before).call
            (env.recording.getCollectorPath event)).2 := entered.same ⟨rfl, rfl⟩
        cases found : ((loop.enter event before).call
            (env.recording.getCollectorPath event)).1 with
        | error code => exact answered.same (same.rollback loaded _)
        | ok path =>
            rw [found] at alone
            dsimp only at alone ⊢
            have kept := answered.loadCollectorOf alone.1
            split_ifs with failed
            · exact kept.same (same.rollback loaded _)
            · exact ih kept (alone.2 (not_not.mp failed)) _

theorem Balanced.queryEach (balanced : Balanced closed before) {rulers : List SecurityEventRuler}
    (alone : QueriesAlone env.recording rulers before) :
    Balanced closed (queryEach env.recording.toQueryCalls rulers before).2 := by
  induction rulers generalizing before with
  | nil => exact balanced
  | cons ruler rest ih =>
      have answered : Balanced closed (before.call
          (env.recording.getCollectorPath ruler.eventId)).2 := balanced.same ⟨rfl, rfl⟩
      rw [QueriesAlone] at alone
      rw [QueryState.queryEach]
      dsimp only at alone ⊢
      cases found : (before.call (env.recording.getCollectorPath ruler.eventId)).1 with
      | error code => exact answered
      | ok path =>
          rw [found] at alone
          dsimp only at alone ⊢
          have kept := answered.loadCollector alone.1
          split_ifs with failed
          · exact kept
          · exact ih kept (alone.2 (not_not.mp failed))

/-- Keeping a loader binds an event that has none. -/
theorem get?_keepLib (path : String) (ruler : SecurityEventRuler)
    (state : QueryState (LibraryWorld σ)) (eventId : Int) :
    (state.keepLib path ruler).collection.needCloseLibMap.get? eventId =
      (state.collection.needCloseLibMap.get? eventId).or
        (if eventId = ruler.eventId then some path else none) := by
  rw [QueryState.keepLib]
  dsimp only
  rw [DataCollection.emplace]
  split_ifs with bound same same
  · obtain ⟨kept, found⟩ := SortedMap.contains_iff.mp bound
    rw [same, found]
    rfl
  · rw [Option.or_none]
  · have absent : state.collection.needCloseLibMap.get? ruler.eventId = none := by
      simpa [SortedMap.contains] using bound
    rw [same, SortedMap.get?_insert_self, absent]
    rfl
  · rw [SortedMap.get?_insert, if_neg same, Option.or_none]

/-- The loaders that are kept after a library was opened for a list. -/
theorem keepLibs_spec (path : String) (rulers : List SecurityEventRuler)
    (state : QueryState (LibraryWorld σ)) :
    (∀ eventId,
      (rulers.foldl (·.keepLib path ·) state).collection.needCloseLibMap.get? eventId =
        (state.collection.needCloseLibMap.get? eventId).or
          (if eventId ∈ rulers.map SecurityEventRuler.eventId then some path else none)) ∧
      (rulers.foldl (·.keepLib path ·) state).world = state.world := by
  induction rulers generalizing state with
  | nil => simp
  | cons ruler rest ih =>
      obtain ⟨kept, world⟩ := ih (state.keepLib path ruler)
      refine ⟨fun eventId => ?_, world⟩
      rw [List.foldl_cons, kept, get?_keepLib, Option.or_assoc, List.map_cons]
      congr 1
      by_cases same : eventId = ruler.eventId
      · simp [same]
      · simp [same]

theorem Balanced.keepLibs (balanced : Balanced closed before) {path : String}
    {rulers : List SecurityEventRuler} (alone : before.OpensForOne env.recording path rulers)
    (opened : (before.call (env.recording.loadLib path)).1 = .success) :
    Balanced closed (rulers.foldl (·.keepLib path ·)
      (before.call (env.recording.loadLib path)).2) := by
  obtain ⟨eventId, mem, fresh, only⟩ := alone opened
  obtain ⟨kept, world⟩ := keepLibs_spec path rulers
    (before.call (env.recording.loadLib path)).2
  have same : (before.call (env.recording.loadLib path)).2.collection = before.collection := rfl
  rw [same] at kept
  refine balanced.opened path fresh (SortedMap.ext_get? fun other => ?_) ?_
  · rw [kept, SortedMap.get?_insert]
    by_cases own : other = eventId
    · rw [own, fresh, if_pos mem, if_pos rfl]
      rfl
    · rw [if_neg own]
      cases bound : before.collection.needCloseLibMap.get? other with
      | some library => rfl
      | none => rw [if_neg fun mem => own (only other mem bound), Option.or_none]
  · rw [world]
    exact if_pos opened

theorem Balanced.loadAndQueryBySoPath (balanced : Balanced closed before) {soPath : String}
    {rulers : List SecurityEventRuler}
    (alone : before.OpensForOne env.recording soPath rulers) :
    Balanced closed
      (before.loadAndQueryBySoPath env.recording.toQueryCalls soPath rulers).2 := by
  rw [QueryState.loadAndQueryBySoPath]
  dsimp only
  split_ifs with failed
  · exact (balanced.refused failed).same ⟨rfl, rfl⟩
  all_goals exact (balanced.keepLibs alone (not_not.mp failed)).same ⟨rfl, rfl⟩

theorem Balanced.queryGroups (balanced : Balanced closed before)
    {groups : List (String × List SecurityEventRuler)}
    (alone : GroupsAlone env.recording groups before) :
    Balanced closed (queryGroups env.recording.toQueryCalls groups before) := by
  induction groups generalizing before with
  | nil => exact balanced
  | cons group rest ih => exact ih (balanced.loadAndQueryBySoPath alone.1) alone.2

theorem Balanced.closeLib (balanced : Balanced closed before) :
    Balanced (closed ++ before.toClose) before.closeLib := by
  have none : before.closeLib.toClose = [] := rfl
  rw [Balanced, none, List.append_nil]
  exact balanced

theorem groupBySoPath_same (rulers : List SecurityEventRuler)
    (groups : SortedMap String (List SecurityEventRuler)) (state : QueryState (LibraryWorld σ)) :
    SameBooks state (groupBySoPath env.recording.toQueryCalls rulers groups state).2 := by
  induction rulers generalizing groups state with
  | nil => exact ⟨rfl, rfl⟩
  | cons ruler rest ih =>
      rw [groupBySoPath]
      dsimp only
      cases (state.call (env.recording.getCollectorPath ruler.eventId)).1 with
      | error code => exact SameBooks.trans ⟨rfl, rfl⟩ (ih _ _)
      | ok path => exact SameBooks.trans ⟨rfl, rfl⟩ (ih _ _)

end QueryState

/-! ## Runs -/

/-- An operation that opens or closes libraries. -/
inductive LibraryAction where
  | subscribeCollectors (eventIds : List Int)
  | subscribeCollectorsBySticky (eventIds : List Int)
  | startCollectors (eventIds : List Int)
  | unsubscribeCollectors (eventIds : List Int)
  | stopCollectors (eventIds : List Int)
  | querySecurityEvent (rulers : List SecurityEventRuler)
  | querySecurityEventBatch (rulers : List SecurityEventRuler)
  | closeLib

/-- The state of `DataCollection` and the libraries that were closed. -/
structure Libraries (σ : Type) where
  state : QueryState (LibraryWorld σ)
  closed : List String := []

namespace Libraries

variable {σ : Type} (env : CollectorCalls σ) (libraries : Libraries σ)

/-- What an operation does. -/
def perform : LibraryAction → Libraries σ
  | .subscribeCollectors eventIds =>
      { libraries with state := (libraries.state.subscribeCollectors env.recording eventIds).2 }
  | .subscribeCollectorsBySticky eventIds =>
      { libraries with
        state := (libraries.state.subscribeCollectorsBySticky env.recording eventIds).2 }
  | .startCollectors eventIds =>
      { libraries with state := (libraries.state.startCollectors env.recording eventIds).2 }
  | .unsubscribeCollectors eventIds =>
      { libraries with
        state := (libraries.state.unsubscribeCollectorsLocked env.recording eventIds).2 }
  | .stopCollectors eventIds =>
      { libraries with state := (libraries.state.stopCollectorsLocked env.recording eventIds).2 }
  | .querySecurityEvent rulers =>
      { libraries with
        state := (libraries.state.queryCollection env.recording.toQueryCalls rulers).2 }
  | .querySecurityEventBatch rulers =>
      { libraries with
        state := (libraries.state.queryCollectionBatch env.recording.toQueryCalls rulers).2 }
  | .closeLib =>
      { state := libraries.state.closeLib
        closed := libraries.closed ++ libraries.state.toClose }

/-- Every operation is possible at any time. -/
def next : Transition (Libraries σ) LibraryAction :=
  fun libraries action => some (libraries.perform env action)

/-- The condition on a step: a library that is opened for an event is the only one kept for it,
one that is opened for a group is kept for one event of it, and libraries are closed while no
collector runs. -/
def KeepsAlone : LibraryAction → Prop
  | .subscribeCollectors eventIds =>
      QueryState.LoadsAlone env.recording (QueryState.subscribing env.recording) eventIds
        libraries.state
  | .subscribeCollectorsBySticky eventIds =>
      QueryState.LoadsAlone env.recording (QueryState.subscribingBySticky env.recording) eventIds
        libraries.state
  | .startCollectors eventIds =>
      QueryState.LoadsAlone env.recording (QueryState.starting env.recording) eventIds
        libraries.state
  | .unsubscribeCollectors _ | .stopCollectors _ => True
  | .querySecurityEvent rulers => QueryState.QueriesAlone env.recording rulers libraries.state
  | .querySecurityEventBatch rulers =>
      let grouped := libraries.state.groupBySoPath env.recording.toQueryCalls rulers .empty
      QueryState.GroupsAlone env.recording (env.recording.order grouped.1 grouped.2.world) grouped.2
  | .closeLib => libraries.state.collection.eventIdToLoaderMap = .empty

/-- Closing the libraries matches every library that was opened with one that is closed, and no
collector uses one of those.  Libraries at several paths may have one handle. -/
structure ClosesExactly {Handle : Type} (handleOf : String → Handle) : Prop where
  matched : ((libraries.perform env .closeLib).closed.map handleOf).Perm
    ((libraries.perform env .closeLib).state.world.opened.map handleOf)
  unused : ∀ path ∈ libraries.state.toClose, ∀ eventId loader,
    libraries.state.collection.eventIdToLoaderMap.get? eventId = some loader →
      handleOf path ≠ handleOf loader

variable {env libraries} {after : Libraries σ}

theorem balanced_next {action : LibraryAction}
    (balanced : libraries.state.Balanced libraries.closed)
    (alone : libraries.KeepsAlone env action)
    (taken : next env libraries action = some after) : after.state.Balanced after.closed := by
  obtain rfl := Option.some.inj taken
  cases action with
  | subscribeCollectors eventIds =>
      rw [perform]
      dsimp only
      rw [QueryState.subscribeCollectors]
      split_ifs
      · exact balanced
      · exact balanced.loadEach QueryState.subscribing_same alone []
  | subscribeCollectorsBySticky eventIds =>
      rw [perform]
      dsimp only
      rw [QueryState.subscribeCollectorsBySticky]
      split_ifs
      · exact balanced
      · exact balanced.loadEach QueryState.subscribingBySticky_same alone []
  | startCollectors eventIds =>
      rw [perform]
      dsimp only
      rw [QueryState.startCollectors]
      split_ifs
      · exact balanced
      · exact balanced.loadEach QueryState.starting_same alone []
  | unsubscribeCollectors eventIds =>
      exact balanced.same (QueryState.unsubscribeCollectorsLocked_same eventIds _)
  | stopCollectors eventIds =>
      exact balanced.same (QueryState.stopCollectorsLocked_same eventIds _)
  | querySecurityEvent rulers =>
      rw [perform]
      dsimp only
      rw [QueryState.queryCollection]
      split_ifs
      · exact balanced
      · exact balanced.queryEach alone
  | querySecurityEventBatch rulers =>
      rw [perform]
      dsimp only
      rw [QueryState.queryCollectionBatch]
      split_ifs
      · exact balanced
      · exact (balanced.same (QueryState.groupBySoPath_same rulers .empty _)).queryGroups alone
  | closeLib => exact balanced.closeLib

/-- The libraries are balanced by `CloseLib` at the end of every run that meets the condition. -/
theorem libraries_balance {Handle : Type} (handleOf : String → Handle) (world : σ)
    {actions : List LibraryAction}
    (alone : Transition.Along (next env) (KeepsAlone env) { state := { world := { world } } }
      (actions ++ [.closeLib]))
    (reach : Transition.run (next env) { state := { world := { world } } } actions =
      some libraries) :
    libraries.ClosesExactly env handleOf := by
  obtain ⟨before, last, -⟩ := (Transition.along_append reach).mp alone
  have start : ({ state := { world := { world } } } : Libraries σ).state.Balanced [] := .refl []
  have balanced : libraries.state.Balanced libraries.closed :=
    Transition.run_invariant (fun held kept taken => balanced_next held kept taken) start
      before reach
  constructor
  · exact balanced.map handleOf
  · intro path _ eventId loader found
    have none : libraries.state.collection.eventIdToLoaderMap = .empty := last
    rw [none] at found
    exact absurd found (Option.some_ne_none _ ∘ Eq.symm)

/-- Every collector is in one library, which opens, and every call succeeds. -/
def oneLibrary : CollectorCalls Unit where
  getCollectorPath _ world := (.ok "/system/lib64/libcollector.z.so", world)
  loadLib _ world := (.success, world)
  callGetCollector _ world := (true, world)
  query _ _ world := ({ code := .success }, world)
  batchQuery _ _ world := ({ code := .success }, world)
  loadCollectorService world := (true, world)
  sendQuery _ world := ((.success, {}), world)
  sendQueryBatch _ world := ((.success, {}), world)
  queryEventByEventId _ world := ((.success, []), world)
  queryEventByEventIdAndDate _ _ _ _ world := ((.success, []), world)
  order groups _ := groups.entries
  order_perm := QueryCalls.entries_perm
  start _ world := (0, world)
  stop _ world := (0, world)

/-- A collector that stops before the libraries are closed. -/
theorem one_library_balances :
    ∃ libraries : Libraries Unit,
      Transition.run (next oneLibrary) { state := { world := { world := () } } }
          [.subscribeCollectors [1], .unsubscribeCollectors [1]] = some libraries ∧
        libraries.ClosesExactly oneLibrary id := by
  have alone : Transition.Along (next oneLibrary) (KeepsAlone oneLibrary)
      { state := { world := { world := () } } }
      ([.subscribeCollectors [1], .unsubscribeCollectors [1]] ++ [.closeLib]) := by
    refine ⟨⟨fun _ => rfl, fun _ => trivial⟩, fun first taken => ⟨trivial, fun second taken' => ?_⟩⟩
    obtain rfl := Option.some.inj taken
    obtain rfl := Option.some.inj taken'
    exact ⟨rfl, fun _ _ => trivial⟩
  exact ⟨_, rfl, libraries_balance id () alone rfl⟩

/-- Two queries for one event leave a library open, a collector runs while its library is closed,
and a query for two events closes its library twice. -/
theorem libraries_are_unbalanced :
    (∃ libraries : Libraries Unit,
      Transition.run (next oneLibrary) { state := { world := { world := () } } }
          [.querySecurityEvent [{ eventId := 1 }], .querySecurityEvent [{ eventId := 1 }]] =
        some libraries ∧ ¬libraries.ClosesExactly oneLibrary id) ∧
      (∃ libraries : Libraries Unit,
        Transition.run (next oneLibrary) { state := { world := { world := () } } }
            [.subscribeCollectors [1]] =
          some libraries ∧ ¬libraries.ClosesExactly oneLibrary id) ∧
      ∃ libraries : Libraries Unit,
        Transition.run (next oneLibrary) { state := { world := { world := () } } }
            [.querySecurityEventBatch [{ eventId := 1 }, { eventId := 2 }]] =
          some libraries ∧ ¬libraries.ClosesExactly oneLibrary id := by
  refine ⟨⟨_, rfl, fun exact => ?_⟩, ⟨_, rfl, fun exact => ?_⟩, ⟨_, rfl, fun exact => ?_⟩⟩
  · exact absurd exact.matched.length_eq (by decide +kernel)
  · exact exact.unused "/system/lib64/libcollector.z.so" (by decide +kernel) 1 _ rfl rfl
  · exact absurd exact.matched.length_eq (by decide +kernel)

end Libraries

end SecurityGuard
