import SecurityGuard.Foundation.Text
import SecurityGuard.Service.QueryAnswers

/-!
# What becomes of each query

Every query under a configured group is invalid or in exactly one sub-query.  The ids that
`OnError` names are those of the invalid queries and those that the sub-queries reported.  A
library that does not load, an error of `BatchQuery` or of the store and a collector service that
does not answer lose their queries, unless another answer names the same ids.
-/

namespace SecurityGuard

theorem words_errorMessage (ids : List Int) :
    Text.words (errorMessage (errEventIds ids)) =
      "QuerySecurityEvent".toList :: (ids.map fun id => (toString id).toList) ++
        ["failed".toList] := by
  have listed : Text.words (errEventIds ids ++ "failed") =
      (ids.map fun id => (toString id).toList) ++ ["failed".toList] := by
    induction ids with
    | nil => decide
    | cons id rest ih =>
        have numeral : ' ' ∉ (toString id).toList := Text.not_mem_toString (by decide) id
        rw [errEventIds, String.append_assoc, Text.words_append_blank numeral, ih]
        rfl
  have stem : ' ' ∉ "QuerySecurityEvent".toList := by decide
  have split := Text.words_append_blank stem (errEventIds ids ++ "failed")
  rw [← String.append_assoc, listed] at split
  exact split

/-- A message names an id if one of its words is the id. -/
def Names (message : String) (eventId : Int) : Prop :=
  (toString eventId).toList ∈ Text.words message

instance (message : String) (eventId : Int) : Decidable (Names message eventId) :=
  inferInstanceAs (Decidable (_ ∈ _))

theorem names_errorMessage_iff {ids : List Int} {eventId : Int} :
    Names (errorMessage (errEventIds ids)) eventId ↔ eventId ∈ ids := by
  have not_stem : (toString eventId).toList ≠ "QuerySecurityEvent".toList := by
    intro same
    have absent : 'Q' ∉ (toString eventId).toList := Text.not_mem_toString (by decide) eventId
    exact absent (by rw [same]; decide)
  have not_end : (toString eventId).toList ≠ "failed".toList := by
    intro same
    have absent : 'f' ∉ (toString eventId).toList := Text.not_mem_toString (by decide) eventId
    exact absent (by rw [same]; decide)
  rw [Names, words_errorMessage]
  simp only [List.cons_append, List.mem_cons, List.mem_append, List.not_mem_nil, or_false,
    not_stem, not_end, false_or, List.mem_map]
  constructor
  · rintro ⟨id, mem, same⟩
    exact Text.toString_injective (String.toList_inj.mp same) ▸ mem
  · exact fun mem => ⟨eventId, mem, rfl⟩

namespace ConfigData

variable (config : ConfigData) (group : EventGroupCfg)

/-- A query for an event that is in the group and configured. -/
def isValid (ruler : SecurityEventRuler) : Bool :=
  group.eventList.contains ruler.eventId && (config.getEventConfig ruler.eventId).isSome

/-- The queries that are not invalid, by the way they are served. -/
def validRulers (rulers : List SecurityEventRuler) : List SecurityEventRuler :=
  let classified := config.classifyRulers group rulers
  classified.securityGuardRulers ++ classified.securityCollectorRulers ++ classified.dbRulers

theorem validRulers_perm (rulers : List SecurityEventRuler) :
    (config.validRulers group rulers).Perm (rulers.filter (config.isValid group)) := by
  induction rulers with
  | nil => exact .refl []
  | cons ruler rest ih =>
      rw [validRulers, classifyRulers]
      have kept (valid : config.isValid group ruler = true) : (ruler :: rest).filter
          (config.isValid group) = ruler :: rest.filter (config.isValid group) :=
        List.filter_cons_of_pos valid
      have dropped (invalid : config.isValid group ruler = false) : (ruler :: rest).filter
          (config.isValid group) = rest.filter (config.isValid group) :=
        List.filter_cons_of_neg (by simp [invalid])
      rw [validRulers] at ih
      split_ifs with outside
      · have absent : group.eventList.contains ruler.eventId = false := by simpa using outside
        rw [dropped (by rw [isValid, absent, Bool.false_and])]
        exact ih
      · cases found : config.getEventConfig ruler.eventId with
        | none =>
            rw [dropped (by simp [isValid, found])]
            exact ih
        | some cfg =>
            have inside : group.eventList.contains ruler.eventId = true := by simpa using outside
            rw [kept (by rw [isValid, inside, found]; rfl)]
            have middle := List.Perm.cons ruler ih
            dsimp only
            split_ifs
            · exact middle
            · refine .trans ?_ middle
              rw [List.append_assoc, List.append_assoc]
              exact List.perm_middle
            · exact List.perm_middle.trans middle

theorem invalidEventIds_eq (rulers : List SecurityEventRuler) :
    (config.classifyRulers group rulers).invalidEventIds =
      (rulers.filter fun ruler => !config.isValid group ruler).map SecurityEventRuler.eventId := by
  induction rulers with
  | nil => rfl
  | cons ruler rest ih =>
      rw [classifyRulers]
      split_ifs with outside
      · have absent : group.eventList.contains ruler.eventId = false := by simpa using outside
        have invalid : config.isValid group ruler = false := by rw [isValid, absent, Bool.false_and]
        simp [invalid, ih]
      · have inside : group.eventList.contains ruler.eventId = true := by simpa using outside
        cases found : config.getEventConfig ruler.eventId with
        | none =>
            have invalid : config.isValid group ruler = false := by
              rw [isValid, found, Option.isSome_none, Bool.and_false]
            simp [invalid, ih]
        | some cfg =>
            have valid : config.isValid group ruler = true := by
              rw [isValid, inside, found]
              rfl
            dsimp only
            split_ifs <;> simp [valid, ih]

end ConfigData

namespace SubQuery

/-- The sub-query succeeded and did not report the id of the query. -/
def Answers (subQuery : SubQuery) (ruler : SecurityEventRuler) : Prop :=
  subQuery.code = .success ∧ ruler.eventId ∉ subQuery.reported

instance (subQuery : SubQuery) (ruler : SecurityEventRuler) :
    Decidable (subQuery.Answers ruler) :=
  inferInstanceAs (Decidable (_ ∧ _))

/-- The queries that a sub-query answered. -/
def answered (subQuery : SubQuery) : List SecurityEventRuler :=
  subQuery.rulers.filter fun ruler => subQuery.Answers ruler

end SubQuery

/-- Whenever a sub-query failed, some sub-query reported the id of each of its queries. -/
def FailuresReported (subQueries : List SubQuery) : Prop :=
  ∀ subQuery ∈ subQueries, subQuery.code ≠ .success → ∀ ruler ∈ subQuery.rulers,
    ruler.eventId ∈ subQueries.flatMap SubQuery.reported

/-- Whenever an answer is a silent failure, some answer names the id of each of its queries. -/
def SilentFailuresNamed (answers : List QueryAnswer) : Prop :=
  ∀ answer ∈ answers, answer.IsSilentFailure → ∀ ruler ∈ answer.rulers,
    ruler.eventId ∈ answers.flatMap QueryAnswer.named

instance (answers : List QueryAnswer) : Decidable (SilentFailuresNamed answers) :=
  inferInstanceAs (Decidable (∀ answer ∈ answers, _ → ∀ ruler ∈ answer.rulers, _))

/-- A query without a library and a library without a collector name their own ids. -/
theorem failuresReported_iff_silent_failures_named (answers : List QueryAnswer) :
    FailuresReported (answers.map QueryAnswer.subQuery) ↔ SilentFailuresNamed answers := by
  have reported : (answers.map QueryAnswer.subQuery).flatMap SubQuery.reported =
      answers.flatMap QueryAnswer.named := List.flatMap_map _ _ answers
  rw [FailuresReported, SilentFailuresNamed, List.forall_mem_map, reported]
  refine forall₂_congr fun answer mem => ?_
  have own {eventId : Int} (among : eventId ∈ answer.named) :
      eventId ∈ answers.flatMap QueryAnswer.named := List.mem_flatMap.mpr ⟨answer, mem, among⟩
  cases answer with
  | noCollectorPath ruler code =>
      refine ⟨fun _ silent => silent.elim, fun _ _ other among => own ?_⟩
      rw [List.mem_singleton.mp among]
      exact List.mem_singleton_self _
  | noCollector rulers =>
      exact ⟨fun _ silent => silent.elim, fun _ _ other among => own (List.mem_map_of_mem among)⟩
  | libNotLoaded rulers =>
      have failed : Code.failed ≠ .success := by decide
      exact ⟨fun all _ => all failed, fun all _ => all trivial⟩
  | batchQuery | collectorService | database => exact .rfl

variable {subQueries : List SubQuery} {ruler : SecurityEventRuler}

/-- All sub-queries of a query answered it, if none failed and none reported its id. -/
theorem count_answered
    (unreported : ruler.eventId ∉ subQueries.flatMap SubQuery.reported)
    (succeed : ∀ subQuery ∈ subQueries, ruler ∈ subQuery.rulers → subQuery.code = .success) :
    (subQueries.flatMap SubQuery.answered).count ruler =
      (subQueries.flatMap SubQuery.rulers).count ruler := by
  induction subQueries with
  | nil => rfl
  | cons subQuery rest ih =>
      obtain ⟨here, later⟩ := not_or.mp (mt List.mem_append.mpr unreported)
      rw [List.flatMap_cons, List.flatMap_cons, List.count_append, List.count_append,
        ih later fun other mem => succeed other (List.mem_cons_of_mem subQuery mem)]
      congr 1
      by_cases mem : ruler ∈ subQuery.rulers
      · have answers : subQuery.Answers ruler :=
          ⟨succeed subQuery List.mem_cons_self mem, here⟩
        exact List.count_filter (by simpa using answers)
      · rw [List.count_eq_zero_of_not_mem mem]
        exact List.count_eq_zero_of_not_mem fun kept => mem (List.mem_of_mem_filter kept)

/-- A failed sub-query answers its queries less often than they were asked. -/
theorem count_answered_lt {failed : SubQuery} (mem : failed ∈ subQueries)
    (code : failed.code ≠ .success) (asked : ruler ∈ failed.rulers) :
    (subQueries.flatMap SubQuery.answered).count ruler <
      (subQueries.flatMap SubQuery.rulers).count ruler := by
  have share (subQuery : SubQuery) : subQuery.answered.count ruler ≤ subQuery.rulers.count ruler :=
    List.filter_sublist.count_le ruler
  have total (list : List SubQuery) : (list.flatMap SubQuery.answered).count ruler ≤
      (list.flatMap SubQuery.rulers).count ruler := by
    induction list with
    | nil => exact le_rfl
    | cons subQuery rest ih =>
        rw [List.flatMap_cons, List.flatMap_cons, List.count_append, List.count_append]
        exact Nat.add_le_add (share subQuery) ih
  have nothing : failed.answered.count ruler = 0 := by
    have unanswered : ¬ failed.Answers ruler := fun answers => code answers.1
    exact List.count_eq_zero_of_not_mem fun kept =>
      unanswered (of_decide_eq_true (List.mem_filter.mp kept).2)
  have positive : 0 < failed.rulers.count ruler := List.count_pos_iff.mpr asked
  obtain ⟨front, back, rfl⟩ := List.append_of_mem mem
  have front_le := total front
  have back_le := total back
  simp only [List.flatMap_append, List.flatMap_cons, List.count_append]
  omega

namespace QueryState

variable {σ : Type}

/-- The last callback of a task is an error that names an id. -/
def Named (state : QueryState σ) (eventId : Int) : Prop :=
  ∃ message, state.callbacks.getLast? = some (.onError message) ∧ Names message eventId

/-- A query is answered as often as it was asked, each time by one successful sub-query, or its
id is named in the error. -/
def Accounted (state : QueryState σ) (rulers : List SecurityEventRuler)
    (ruler : SecurityEventRuler) : Prop :=
  (state.subQueries.flatMap SubQuery.answered).count ruler = rulers.count ruler ∨
    state.Named ruler.eventId

theorem subQueries_callback (state : QueryState σ) (sent : QueryCallback) :
    (state.callback sent).subQueries = state.subQueries := rfl

theorem named_iff {served : QueryState σ} {failedIds : List Int} {eventId : Int} :
    (served.callback (if failedIds ≠ [] then .onError (errorMessage (errEventIds failedIds))
      else .onComplete)).Named eventId ↔ eventId ∈ failedIds := by
  rw [Named, callback]
  simp only [List.getLast?_concat, Option.some.injEq]
  split_ifs with failed
  · constructor
    · rintro ⟨message, same, names⟩
      obtain rfl := QueryCallback.onError.inj same
      exact names_errorMessage_iff.mp names
    · exact fun mem => ⟨_, rfl, names_errorMessage_iff.mpr mem⟩
  · rw [not_not.mp failed]
    simp

/-- Every query is answered or named in the error exactly if the ids of the queries of every failed
sub-query are reported. -/
theorem accounted_iff_failures_reported {config : ConfigData} {eventGroup : String}
    {group : EventGroupCfg} (configured : config.getEventGroupConfig eventGroup = some group)
    (env : QueryCalls σ) (collection : DataCollection) (world : σ)
    (rulers : List SecurityEventRuler) :
    let final := ({ collection, world } : QueryState σ).handleQuerySecurityEvent config env rulers
      eventGroup
    (∀ ruler ∈ rulers, final.Accounted rulers ruler) ↔ FailuresReported final.subQueries := by
  obtain ⟨reported, served, serves, ends⟩ :=
    handleQuerySecurityEvent_serves config env { collection, world } configured
  obtain ⟨subQueries, history, perm, rfl⟩ := serves.served
  have asked := perm.trans (config.validRulers_perm group rulers)
  have same : served.subQueries = subQueries := history
  have valid_of_mem {ruler : SecurityEventRuler}
      (mem : ruler ∈ subQueries.flatMap SubQuery.rulers) :
      ruler ∈ rulers ∧ config.isValid group ruler = true :=
    List.mem_filter.mp (asked.mem_iff.mp mem)
  have times {ruler : SecurityEventRuler} (valid : config.isValid group ruler = true) :
      (subQueries.flatMap SubQuery.rulers).count ruler = rulers.count ruler :=
    (asked.count_eq ruler).trans (List.count_filter valid)
  dsimp only
  rw [ends]
  simp only [Accounted, named_iff, subQueries_callback, same,
    config.invalidEventIds_eq group rulers, List.mem_append]
  constructor
  · intro accounted subQuery mem failed ruler inside
    have part : ruler ∈ subQueries.flatMap SubQuery.rulers :=
      List.mem_flatMap.mpr ⟨subQuery, mem, inside⟩
    obtain ⟨requested, valid⟩ := valid_of_mem part
    rcases accounted ruler requested with count | invalid | reported
    · have less := count_answered_lt mem failed inside
      rw [count, times valid] at less
      exact absurd less (lt_irrefl _)
    · obtain ⟨other, other_mem, id⟩ := List.mem_map.mp invalid
      have other_invalid := (List.mem_filter.mp other_mem).2
      rw [ConfigData.isValid, id, ← ConfigData.isValid, valid] at other_invalid
      exact absurd other_invalid (by decide)
    · exact reported
  · intro reports ruler requested
    cases valid : config.isValid group ruler with
    | false =>
        exact .inr (.inl (List.mem_map.mpr
          ⟨ruler, List.mem_filter.mpr ⟨requested, by simp [valid]⟩, rfl⟩))
    | true =>
        by_cases reported : ruler.eventId ∈ subQueries.flatMap SubQuery.reported
        · exact .inr (.inr reported)
        · refine .inl ((count_answered reported ?_).trans (times valid))
          intro subQuery mem inside
          by_contra failed
          exact reported (reports subQuery mem failed ruler inside)

/-- Under a configured group every query is answered or named in the error exactly if the answers
to the calls of the task name the queries of every silent failure. -/
theorem accounted_iff_silent_failures_named {config : ConfigData} {eventGroup : String}
    {group : EventGroupCfg} (configured : config.getEventGroupConfig eventGroup = some group)
    (env : QueryCalls σ) (collection : DataCollection) (world : σ)
    (rulers : List SecurityEventRuler) :
    let final := ({ collection, world } : QueryState σ).handleQuerySecurityEvent config env rulers
      eventGroup
    (∀ ruler ∈ rulers, final.Accounted rulers ruler) ↔
      SilentFailuresNamed (env.taskAnswers config group rulers world) := by
  have answers := handleQuerySecurityEvent_subQueries config env { collection, world } rulers
    configured
  refine (accounted_iff_failures_reported configured env collection world rulers).trans ?_
  rw [answers, List.nil_append]
  exact failuresReported_iff_silent_failures_named _

/-- A group of event 5 only. -/
def collectorGroup : EventGroupCfg where
  eventGroupName := "securityGroup"
  eventList := SortedMap.empty.insert 5 ()
  permissionList := [querySecurityEventPermission]

/-- The collector of event 5 is in a library of this process. -/
def collectorConfig : ConfigData where
  eventMap :=
    SortedMap.empty.insert 5 { eventId := 5, eventType := .queryColl, prog := securityGuardProg }
  eventGroupMap := SortedMap.empty.insert "securityGroup" collectorGroup

/-- Libraries are found and the one at `/system/lib/broken.so` cannot be loaded. -/
def brokenLibrary : QueryCalls Unit where
  getCollectorPath eventId world :=
    (.ok (if eventId = 5 then "/system/lib/broken.so" else "/system/lib/whole.so"), world)
  loadLib path world := (if path = "/system/lib/broken.so" then .failed else .success, world)
  callGetCollector _ world := (true, world)
  query _ _ world := ({ code := .success }, world)
  batchQuery _ _ world := ({ code := .success }, world)
  loadCollectorService world := (false, world)
  sendQuery _ world := ((.failed, {}), world)
  sendQueryBatch _ world := ((.failed, {}), world)
  queryEventByEventId _ world := ((.success, []), world)
  queryEventByEventIdAndDate _ _ _ _ world := ((.success, []), world)
  order groups _ := groups.entries
  order_perm := QueryCalls.entries_perm

theorem accounted_iff_silent_failures_named_brokenLibrary :
    let final := ({ collection := {}, world := () } : QueryState Unit).handleQuerySecurityEvent
      collectorConfig brokenLibrary [{ eventId := 5 }, { eventId := 6 }] "securityGroup"
    (∀ ruler ∈ [{ eventId := 5 }, { eventId := 6 }],
        final.Accounted [{ eventId := 5 }, { eventId := 6 }] ruler) ↔
      SilentFailuresNamed (brokenLibrary.taskAnswers collectorConfig collectorGroup
        [{ eventId := 5 }, { eventId := 6 }] ()) := by
  have configured : collectorConfig.getEventGroupConfig "securityGroup" = some collectorGroup := rfl
  exact accounted_iff_silent_failures_named configured brokenLibrary {} ()
    [{ eventId := 5 }, { eventId := 6 }]

/-- The only answer to a query for event 5 is a silent failure. -/
example : brokenLibrary.taskAnswers collectorConfig collectorGroup [{ eventId := 5 }] () =
    [.libNotLoaded [{ eventId := 5 }]] := by
  rfl

/-- A query for event 5 is neither answered nor named. -/
theorem query_is_lost :
    ¬ ∀ (config : ConfigData) (eventGroup : String) (group : EventGroupCfg),
      config.getEventGroupConfig eventGroup = some group →
        ∀ (env : QueryCalls Unit) (rulers : List SecurityEventRuler),
          let final :=
            ({ collection := {}, world := () } : QueryState Unit).handleQuerySecurityEvent
              config env rulers eventGroup
          ∀ ruler ∈ rulers, final.Accounted rulers ruler := by
  intro always
  have completes : (({ collection := {}, world := () } :
      QueryState Unit).handleQuerySecurityEvent collectorConfig brokenLibrary [{ eventId := 5 }]
        "securityGroup").callbacks = [.onComplete] := by decide +kernel
  have unanswered : (({ collection := {}, world := () } :
      QueryState Unit).handleQuerySecurityEvent collectorConfig brokenLibrary [{ eventId := 5 }]
        "securityGroup").subQueries.flatMap SubQuery.answered = [] := by decide +kernel
  rcases always collectorConfig "securityGroup" collectorGroup rfl brokenLibrary
    [{ eventId := 5 }] { eventId := 5 } List.mem_cons_self with count | ⟨message, last, -⟩
  · rw [unanswered] at count
    exact absurd count (by decide)
  · rw [completes] at last
    simp at last

end QueryState

end SecurityGuard
