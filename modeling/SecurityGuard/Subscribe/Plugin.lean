import SecurityGuard.Subscribe.Outcome

/-!
# What the filter plugin holds

The plugin keeps its filters in the world outside.  A plugin call changes the filters of one
client, and only if the event of its filter is configured.  The collector calls and the sessions
do not concern the plugin.
-/

namespace SecurityGuard

/-- The calls of the plugin succeed and maintain a set of filters, each with its client. -/
structure FilterPlugin.Maintains {σ : Type} (plugin : FilterPlugin σ)
    (holds : σ → SecurityCollectorEventMuteFilter → Prop) : Prop where
  set_success : ∀ filter world, (plugin.setEventFilter filter world).1 = .success
  set_holds : ∀ filter world other,
    holds (plugin.setEventFilter filter world).2 other ↔ other = filter ∨ holds world other
  remove_success : ∀ filter world, (plugin.removeEventFilter filter world).1 = .success
  remove_holds : ∀ filter world other,
    holds (plugin.removeEventFilter filter world).2 other ↔ other ≠ filter ∧ holds world other
  removeAll_holds : ∀ clientId world other,
    holds (plugin.removeSdkAllEventFilter clientId world) other ↔
      other.instanceFlag ≠ clientId ∧ holds world other

/-- The plugin is present and maintains its filters, which the collector calls leave alone. -/
structure Externals.MaintainsFilters {σ : Type} (env : Externals σ)
    (holds : σ → SecurityCollectorEventMuteFilter → Prop) : Prop where
  plugin : ∃ plugin, env.eventFilter = some plugin ∧ plugin.Maintains holds
  subscribeCollectors : ∀ eventId world,
    holds (env.subscribeCollectors eventId world).2 = holds world
  subscribeCollectorsBySticky : ∀ eventId world,
    holds (env.subscribeCollectorsBySticky eventId world).2 = holds world
  unsubscribeCollectors : ∀ eventId world,
    holds (env.unsubscribeCollectors eventId world).2 = holds world
  scSubscribe : ∀ eventId world, holds (env.scSubscribe eventId world).2 = holds world
  scUnsubscribe : ∀ eventId world, holds (env.scUnsubscribe eventId world).2 = holds world

namespace Manager

variable {σ : Type} {config : ConfigData} {env : Externals σ} {manager : Manager σ}
  {clientId : String} {eventId : Int} {holds : σ → SecurityCollectorEventMuteFilter → Prop}
  {other : SecurityCollectorEventMuteFilter}

variable (eventId) in
theorem subscribeSc_holds (maintains : env.MaintainsFilters holds) :
    holds (manager.subscribeSc config env eventId).2.world = holds manager.world := by
  rw [subscribeSc]
  cases config.getEventConfig eventId with
  | none => rfl
  | some cfg =>
      dsimp only
      split_ifs
      · rfl
      · rw [subscribeScInSg]
        dsimp only
        split_ifs
        · rfl
        · exact maintains.subscribeCollectors eventId manager.world
        · exact maintains.subscribeCollectors eventId manager.world
        · exact maintains.subscribeCollectorsBySticky eventId manager.world
      · rw [subscribeScInSc]
        dsimp only
        split_ifs
        · rfl
        · exact maintains.scSubscribe eventId manager.world
        · exact maintains.scSubscribe eventId manager.world

variable (eventId) in
theorem unSubscribeSc_holds (maintains : env.MaintainsFilters holds) :
    holds (manager.unSubscribeSc config env eventId).2.world = holds manager.world := by
  rw [unSubscribeSc]
  cases config.getEventConfig eventId with
  | none => rfl
  | some cfg =>
      dsimp only
      split_ifs
      · rfl
      · rfl
      · exact maintains.unsubscribeCollectors eventId manager.world
      · exact maintains.unsubscribeCollectors eventId manager.world
      · exact maintains.unsubscribeCollectors eventId manager.world
      · rfl
      · exact maintains.scUnsubscribe eventId manager.world
      · exact maintains.scUnsubscribe eventId manager.world

variable (config manager eventId) in
theorem subscribeScIfNeeded_holds (maintains : env.MaintainsFilters holds) :
    holds (manager.subscribeScIfNeeded config env eventId).2.world = holds manager.world := by
  rw [subscribeScIfNeeded]
  split_ifs
  · rfl
  · exact subscribeSc_holds eventId maintains

variable (config manager eventId) in
theorem unSubscribeScIfLast_holds (maintains : env.MaintainsFilters holds) :
    holds (manager.unSubscribeScIfLast config env eventId).2.world = holds manager.world := by
  rw [unSubscribeScIfLast]
  split_ifs
  · rfl
  · exact unSubscribeSc_holds eventId maintains

theorem unSubscribeAll_holds (maintains : env.MaintainsFilters holds) (events : List Int) :
    holds (unSubscribeAll config env events manager).world = holds manager.world := by
  induction events generalizing manager with
  | nil => rfl
  | cons event rest ih => rw [unSubscribeAll, ih, unSubscribeScIfLast_holds _ _ event maintains]

theorem configured_of_subscribeSc
    (starts : (manager.subscribeSc config env eventId).1 = .success) :
    (config.getEventConfig eventId).isSome = true := by
  rw [subscribeSc] at starts
  cases configured : config.getEventConfig eventId with
  | none => simp [configured, Code.badParam, Code.success] at starts
  | some cfg => rfl

theorem insertMute_success (maintains : env.MaintainsFilters holds) {filter : EventMuteFilter}
    (configured : (config.getEventConfig filter.eventId).isSome = true) :
    (manager.insertMute config env filter clientId).1 = .success := by
  obtain ⟨plugin, present, maintained⟩ := maintains.plugin
  obtain ⟨cfg, found⟩ := Option.isSome_iff_exists.mp configured
  simp only [insertMute, callFilter, found, present, maintained.set_success]

variable (manager clientId) in
theorem removeMute_success (maintains : env.MaintainsFilters holds) {filter : EventMuteFilter}
    (configured : (config.getEventConfig filter.eventId).isSome = true) :
    (manager.removeMute config env filter clientId).1 = .success := by
  obtain ⟨plugin, present, maintained⟩ := maintains.plugin
  obtain ⟨cfg, found⟩ := Option.isSome_iff_exists.mp configured
  simp only [removeMute, callFilter, found, present, maintained.remove_success]

theorem insertMute_holds (maintains : env.MaintainsFilters holds) (filter : EventMuteFilter) :
    holds (manager.insertMute config env filter clientId).2.world other ↔
      ((config.getEventConfig filter.eventId).isSome = true ∧
          other = convertFilter filter clientId) ∨
        holds manager.world other := by
  obtain ⟨plugin, present, maintained⟩ := maintains.plugin
  cases found : config.getEventConfig filter.eventId with
  | none => simp [insertMute, callFilter, found]
  | some cfg => simp [insertMute, callFilter, found, present, withWorld, maintained.set_holds]

theorem removeMute_holds (maintains : env.MaintainsFilters holds) (filter : EventMuteFilter) :
    holds (manager.removeMute config env filter clientId).2.world other ↔
      ((config.getEventConfig filter.eventId).isSome = true →
          other ≠ convertFilter filter clientId) ∧
        holds manager.world other := by
  obtain ⟨plugin, present, maintained⟩ := maintains.plugin
  cases found : config.getEventConfig filter.eventId with
  | none => simp [removeMute, callFilter, found]
  | some cfg => simp [removeMute, callFilter, found, present, withWorld, maintained.remove_holds]

/-- The filters of a new subscription reach the plugin if they are still in the session. -/
theorem insertMutes_holds (maintains : env.MaintainsFilters holds)
    (filters : List EventMuteFilter) :
    holds (insertMutes config env clientId filters manager).world other ↔
      (∃ filter ∈ filters, manager.isFilterInSession clientId filter = true ∧
          (config.getEventConfig filter.eventId).isSome = true ∧
          other = convertFilter filter clientId) ∨
        holds manager.world other := by
  induction filters generalizing manager with
  | nil => simp [insertMutes]
  | cons filter rest ih =>
      have same : (manager.insertMute config env filter clientId).2.sessionsMap =
          manager.sessionsMap := callFilter_sessionsMap FilterPlugin.setEventFilter filter
      rw [insertMutes]
      split_ifs with recorded
      · rw [ih, insertMute_holds maintains]
        simp only [isFilterInSession] at recorded ⊢
        simp only [same, List.exists_mem_cons_iff, recorded, true_and, or_assoc, or_left_comm]
      · rw [ih]
        simp [recorded]

theorem removeMutes_holds (maintains : env.MaintainsFilters holds)
    (filters : List EventMuteFilter) :
    holds (removeMutes config env clientId filters manager).world other ↔
      (∀ filter ∈ filters, (config.getEventConfig filter.eventId).isSome = true →
          other ≠ convertFilter filter clientId) ∧
        holds manager.world other := by
  induction filters generalizing manager with
  | nil => simp [removeMutes]
  | cons filter rest ih =>
      rw [removeMutes, ih, removeMute_holds maintains, List.forall_mem_cons, and_left_comm,
        and_assoc]

/-- The plugin is not asked to forget a client without name. -/
theorem removeSdkAllEventFilter_holds (maintains : env.MaintainsFilters holds) :
    holds (manager.removeSdkAllEventFilter env clientId).world other ↔
      (clientId ≠ "" → other.instanceFlag ≠ clientId) ∧ holds manager.world other := by
  obtain ⟨plugin, present, maintained⟩ := maintains.plugin
  rw [removeSdkAllEventFilter, present]
  dsimp only
  split_ifs with nameless
  · simp [nameless]
  · simp [nameless, withWorld, maintained.removeAll_holds]

theorem rollbackInsert_world (sessionCreated : Bool) :
    (manager.rollbackInsert eventId clientId sessionCreated).world = manager.world := by
  rw [rollbackInsert]
  cases manager.sessionsMap.get? clientId with
  | none => rfl
  | some session =>
      dsimp only
      split_ifs <;> rfl

theorem cleanupRecord_world (cleanupSession : Bool) :
    (manager.cleanupRecord eventId clientId cleanupSession).world = manager.world := by
  rw [cleanupRecord]
  split_ifs
  · rfl
  · dsimp only
    split <;> rfl
  · dsimp only
    split <;> rfl

variable (config manager clientId eventId) in
theorem removeSubscribeRecordCore_holds (maintains : env.MaintainsFilters holds)
    (cleanupSession : Bool) :
    holds (manager.removeSubscribeRecordCore config env eventId clientId
        cleanupSession).2.world = holds manager.world := by
  rw [removeSubscribeRecordCore]
  cases taken : manager.leaveRecord eventId clientId with
  | returns code => rfl
  | continues left =>
      have same : left.world = manager.world := by
        rw [leaveRecord] at taken
        cases found : manager.sessionsMap.get? clientId with
        | none => simp [found] at taken
        | some session =>
            simp only [found] at taken
            split_ifs at taken
            cases taken
            rfl
      have called := unSubscribeScIfLast_holds config left eventId maintains
      rw [same] at called
      dsimp only
      split_ifs
      · exact called
      · rw [cleanupRecord_world, called]

end Manager

end SecurityGuard
