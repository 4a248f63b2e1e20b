import SecurityGuard.Service.Query

/-!
# The end of a query

A query task that ends does so with one terminal callback after all the events it sent.  A call
without a group is accepted by the permissions of its interface, but its task looks the group up
and returns without a callback.
-/

namespace SecurityGuard

/-- `OnComplete` and `OnError` end a query. -/
def QueryCallback.Terminal : QueryCallback → Prop
  | .onQuery _ => False
  | .onComplete | .onError _ => True

/-- Events first, then one terminal callback. -/
def Completes (callbacks : List QueryCallback) : Prop :=
  ∃ (pieces : List (List SecurityEvent)) (terminal : QueryCallback),
    callbacks = pieces.map .onQuery ++ [terminal] ∧ terminal.Terminal

theorem not_completes_nil : ¬ Completes [] := by
  rintro ⟨pieces, terminal, same, -⟩
  exact absurd same (by simp)

theorem QueryState.Serves.completes {σ : Type} {rulers : List SecurityEventRuler}
    {reported : List Int} {before after : QueryState σ}
    (serves : Serves rulers reported before after)
    (silent : before.callbacks = []) {terminal : QueryCallback} (ends : terminal.Terminal) :
    Completes (after.callback terminal).callbacks := by
  obtain ⟨pieces, sent⟩ := serves.sent
  exact ⟨pieces, terminal, by rw [callback, sent, silent, List.nil_append], ends⟩

/-- A call whose task looks its group up by a name that is not empty, or does not look it up. -/
def QueryCall.Grouped : QueryCall → Prop
  | .querySecurityEvent _ _ eventGroup => eventGroup ≠ ""
  | .querySecurityEventById _ _ _ => True

namespace ConfigData

variable {config : ConfigData} {caller : Caller} {rulers : List SecurityEventRuler}
  {usable : Bool} {eventGroup : String}

theorem submitted_of_querySecurityEvent
    (answered : (config.querySecurityEvent caller rulers usable eventGroup).1 = .success) :
    (config.querySecurityEvent caller rulers usable eventGroup).2 =
        some (.handleQuerySecurityEvent rulers eventGroup) ∧
      (eventGroup ≠ "" → ∃ group, config.getEventGroupConfig eventGroup = some group) := by
  rw [querySecurityEvent] at answered ⊢
  split_ifs at answered ⊢ with unnamed refused unusable refused unusable
  · exact absurd answered refused
  · exact absurd answered (by decide)
  · exact ⟨rfl, fun named => absurd unnamed named⟩
  · exact absurd answered refused
  · exact absurd answered (by decide)
  · have passed := publicPermission_of_permission (not_not.mp refused)
    obtain ⟨group, found, -⟩ := mem_eventList_of_publicPermission passed
    exact ⟨rfl, fun _ => ⟨group, found⟩⟩

theorem submitted_of_querySecurityEventById
    (answered : (config.querySecurityEventById caller rulers usable eventGroup).1 = .success) :
    (config.querySecurityEventById caller rulers usable eventGroup).2 =
      some (.handleQuerySecurityEventById rulers) := by
  rw [querySecurityEventById] at answered ⊢
  split_ifs at answered ⊢ with refused unusable
  · exact absurd answered refused
  · exact absurd answered (by decide)
  · rfl

end ConfigData

namespace QueryState

variable {σ : Type} (config : ConfigData) (env : QueryCalls σ)

theorem handleQuerySecurityEvent_completes (state : QueryState σ) (silent : state.callbacks = [])
    (rulers : List SecurityEventRuler) {eventGroup : String} {group : EventGroupCfg}
    (configured : config.getEventGroupConfig eventGroup = some group) :
    Completes (state.handleQuerySecurityEvent config env rulers eventGroup).callbacks := by
  obtain ⟨reported, served, serves, ends⟩ :=
    handleQuerySecurityEvent_serves config env state configured
  rw [ends]
  refine serves.completes silent ?_
  split_ifs <;> trivial

theorem handleQuerySecurityEventById_completes (state : QueryState σ)
    (silent : state.callbacks = []) (rulers : List SecurityEventRuler) :
    Completes (state.handleQuerySecurityEventById config env rulers).callbacks := by
  obtain ⟨served, reported, serves⟩ := queryEachById_serves config env state rulers
  rw [handleQuerySecurityEventById]
  split_ifs
  · exact serves.completes silent trivial
  · exact serves.completes silent trivial

end QueryState

/-- An accepted query call ends with one terminal callback exactly if it names a group or is a
query by id, whatever the store, the collectors and the collector service answer. -/
theorem query_completes_iff {σ : Type} {config : ConfigData} {caller : Caller} {call : QueryCall}
    (answered : (config.submitQuery caller call).1 = .success) (env : QueryCalls σ)
    (collection : DataCollection) (world : σ) :
    (∃ task, (config.submitQuery caller call).2 = some task ∧
      Completes (task.run config env { collection, world }).callbacks) ↔ call.Grouped := by
  cases call with
  | querySecurityEvent rulers usable eventGroup =>
      obtain ⟨submitted, configured⟩ := ConfigData.submitted_of_querySecurityEvent answered
      constructor
      · rintro ⟨task, taken, completes⟩ unnamed
        obtain rfl := Option.some.inj (submitted.symm.trans taken)
        rw [QueryTask.run, QueryState.handleQuerySecurityEvent, unnamed,
          ConfigData.getEventGroupConfig_empty] at completes
        exact not_completes_nil completes
      · intro named
        obtain ⟨group, found⟩ := configured named
        exact ⟨_, submitted,
          QueryState.handleQuerySecurityEvent_completes config env _ rfl rulers found⟩
  | querySecurityEventById rulers usable eventGroup =>
      have submitted := ConfigData.submitted_of_querySecurityEventById answered
      refine ⟨fun _ => trivial, fun _ => ⟨_, submitted, ?_⟩⟩
      exact QueryState.handleQuerySecurityEventById_completes config env _ rfl rulers

/-- A world in which nothing is found. -/
def QueryCalls.unanswering : QueryCalls Unit where
  getCollectorPath _ world := (.error .failed, world)
  loadLib _ world := (.failed, world)
  callGetCollector _ world := (false, world)
  query _ _ world := ({ code := .failed }, world)
  batchQuery _ _ world := ({ code := .failed }, world)
  loadCollectorService world := (false, world)
  sendQuery _ world := ((.failed, {}), world)
  sendQueryBatch _ world := ((.failed, {}), world)
  queryEventByEventId _ world := ((.failed, []), world)
  queryEventByEventIdAndDate _ _ _ _ world := ((.failed, []), world)
  order groups _ := groups.entries
  order_perm := QueryCalls.entries_perm

/-- A system application that may query events. -/
def queryingCaller : Caller where
  pid := 1
  uid := 20010001
  tokenType := .hap
  permissions := [querySecurityEventPermission]
  isSystemApp := true

/-- Event 5 is in the group `securityGroup`. -/
def queryConfig : ConfigData where
  eventMap := SortedMap.empty.insert 5 { eventId := 5 }
  eventGroupMap :=
    SortedMap.empty.insert "securityGroup"
      { eventGroupName := "securityGroup"
        eventList := SortedMap.empty.insert 5 ()
        permissionList := [querySecurityEventPermission] }

theorem query_completes_iff_securityGroup :
    (∃ task, (queryConfig.submitQuery queryingCaller
        (.querySecurityEvent [{ eventId := 5 }] true "securityGroup")).2 = some task ∧
      Completes (task.run queryConfig .unanswering { collection := {}, world := () }).callbacks) ↔
      "securityGroup" ≠ "" :=
  query_completes_iff (by decide +kernel) .unanswering {} ()

/-- A query without a group is answered with success, but its task makes no callback. -/
theorem query_without_group_is_silent :
    ¬ ∀ (config : ConfigData) (caller : Caller) (call : QueryCall),
      (config.submitQuery caller call).1 = .success →
        ∀ (env : QueryCalls Unit) (collection : DataCollection),
          ∃ task, (config.submitQuery caller call).2 = some task ∧
            Completes (task.run config env { collection, world := () }).callbacks := by
  intro always
  have accepted : queryConfig.submitQuery queryingCaller (.querySecurityEvent [] true "") =
      (.success, some (.handleQuerySecurityEvent [] "")) := by decide +kernel
  obtain ⟨task, submitted, completes⟩ := always queryConfig queryingCaller
    (.querySecurityEvent [] true "") (by rw [accepted]) .unanswering {}
  rw [accepted] at submitted
  obtain rfl := Option.some.inj submitted
  exact not_completes_nil completes

end SecurityGuard
