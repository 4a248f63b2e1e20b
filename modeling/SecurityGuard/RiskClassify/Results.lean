import SecurityGuard.RiskClassify.Instances
import SecurityGuard.RiskClassify.ResultProtocol

/-!
# What a request returns

However the steps of callers, handlers, tasks and models are interleaved, a request that returns a
result returns the one of its own task.  The function of a caller is called once for each callback
that left the service.  The lock of a process is held exactly by a request that is in its remote
call or waits, so it is given back on every path.
-/

namespace SecurityGuard

namespace ModelCall

/-- The same call later on; one that is finished stays as it is. -/
def Later (before after : ModelCall) : Prop :=
  ∃ stage, after = { before with stage } ∧
    ∀ answer, before.stage = .finished answer → stage = .finished answer

theorem Later.refl (call : ModelCall) : call.Later call := ⟨call.stage, rfl, fun _ same => same⟩

end ModelCall

namespace ModelManager

variable {manager middle after : ModelManager} {id other : ModelCallId} {call call' : ModelCall}

theorem later_withCall (same : middle.calls = manager.calls)
    (known : manager.calls.get? other = some call') (running : ∀ a, call'.stage ≠ .finished a)
    (stage : ModelStage) (found : manager.calls.get? id = some call) :
    ∃ later, (middle.withCall other call' stage).calls.get? id = some later ∧ call.Later later := by
  rw [withCall, SortedMap.get?_insert, same]
  split_ifs with equal
  · subst equal
    obtain rfl := Option.some.inj (known.symm.trans found)
    exact ⟨_, rfl, stage, rfl, fun answer finished => absurd finished (running answer)⟩
  · exact ⟨call, found, .refl call⟩

theorem calls_reuseModelIfInUse (manager : ModelManager) (modelId : ModelId) :
    (manager.reuseModelIfInUse modelId).2.calls = manager.calls := by
  rw [reuseModelIfInUse]
  split
  · rfl
  · split <;> rfl

theorem calls_release (manager : ModelManager) (modelId : ModelId) :
    (manager.release modelId).calls = manager.calls := by
  rw [release]
  split
  · rfl
  · split <;> rfl

theorem later_section {answer : ModelAnswer} (known : manager.calls.get? other = some call')
    (taken : manager.section? other call' answer = some after)
    (found : manager.calls.get? id = some call) :
    ∃ later, after.calls.get? id = some later ∧ call.Later later := by
  rw [section?] at taken
  cases stage : call'.stage with
  | load | finished => simp [stage] at taken
  | hold | reuse | install | use | drop | release =>
      have running (a : ModelAnswer) : call'.stage ≠ .finished a := by simp [stage]
      rw [stage] at taken
      obtain rfl := Option.some.inj taken
      first
        | exact later_withCall rfl known running _ found
        | exact later_withCall (calls_reuseModelIfInUse manager call'.modelId) known running _ found
        | exact later_withCall (dropModelUse_same manager call'.modelId).2.2 known running _ found
        | exact later_withCall (calls_release manager call'.modelId) known running _ found

theorem later_loadStep {outcome : LoadOutcome} (known : manager.calls.get? other = some call')
    (loading : call'.stage = .load) (taken : manager.loadStep other call' outcome = some after)
    (found : manager.calls.get? id = some call) :
    ∃ later, after.calls.get? id = some later ∧ call.Later later := by
  have running (a : ModelAnswer) : call'.stage ≠ .finished a := by simp [loading]
  cases outcome with
  | notFound | fileErr | failed =>
      obtain rfl := Option.some.inj taken
      exact later_withCall rfl known running _ found
  | initFailed | initialised =>
      rw [loadStep] at taken
      split_ifs at taken
      obtain rfl := Option.some.inj taken
      exact later_withCall rfl known running _ found

/-- Every step leaves every call what it is, or further on. -/
theorem later_of_next {action : ModelAction} (taken : next manager action = some after)
    (found : manager.calls.get? id = some call) :
    ∃ later, after.calls.get? id = some later ∧ call.Later later := by
  cases action with
  | call other modelId request =>
      simp only [next] at taken
      split_ifs at taken with used
      obtain rfl := Option.some.inj taken
      have different : id ≠ other := by
        rintro rfl
        exact used (SortedMap.contains_iff.mpr ⟨call, found⟩)
      refine ⟨call, ?_, .refl call⟩
      rw [withCall, SortedMap.get?_insert, if_neg different, found]
  | load other outcome =>
      simp only [next] at taken
      cases known : manager.calls.get? other with
      | none => simp [known] at taken
      | some call' =>
          rw [known] at taken
          obtain ⟨loading, taken⟩ := Option.ite_none_right_eq_some.mp taken
          exact later_loadStep known loading taken found
  | proceed other answer =>
      simp only [next] at taken
      cases known : manager.calls.get? other with
      | none => simp [known] at taken
      | some call' =>
          rw [known] at taken
          exact later_section known taken found
  | release modelId =>
      obtain rfl := Option.some.inj taken
      exact ⟨call, by rw [calls_release, found], .refl call⟩

end ModelManager

/-- How often a handler has called back. -/
def HandlerStage.callbacks : HandlerStage → ℕ
  | .answered _ _ true => 1
  | _ => 0

/-- The request whose caller or handler makes the step, for the steps that none but they wait for:
neither a task nor a model nor a callback makes one. -/
def ResultAction.waited? : ResultAction → Option ResultRequestId
  | .lock id | .enter id | .answer id _ | .expire id _ | .reply id | .finish id | .timeout id =>
      some id
  | .request _ _ _ | .fail _ _ | .run _ _ _ | .manager _ | .settle _ | .deliver _ => none

namespace ResultRequest

variable (primitives : Parcel.Primitives) (request : ResultRequest)

/-- What the function of the caller is called with when the service calls back with a text. -/
def resultOf (result : String) : SecurityModelResult where
  devId := ""
  modelId := request.modelId
  param := request.param
  result

/-- The permission that the handler asks for. -/
def Permitted : Prop :=
  RiskApi.isCallerHasApiPermission request.token .requestSecurityModelResult = .success

/-- A callback that left is on its way or has arrived. -/
def Called (result : String) (left : Bool) : Prop :=
  if left then
    (request.responseParcel primitives result).length < 2 ^ 32 ∧
      (request.flying = some (request.responseParcel primitives result) ∧ request.results = [] ∨
        request.flying = none ∧ request.results = [request.resultOf result])
  else request.flying = none ∧ request.results = []

/-- What the stage of the handler says about the task and the callback. -/
def Handled : Prop :=
  match request.handler with
  | .idle => request.task = .idle ∧ request.flying = none ∧ request.results = []
  | .waiting => request.Permitted ∧ request.flying = none ∧ request.results = []
  | .refused code =>
      code ≠ .success ∧ request.task = .idle ∧ request.flying = none ∧ request.results = []
  | .answered code result left =>
      request.Permitted ∧ request.Called primitives result left ∧
        (code = .success ∧ request.task.result? = some result ∨ code = .timeOut ∧ result = "")

/-- What the stage of the caller says about the handler. -/
def Asked : Prop :=
  match request.caller with
  | .locking => request.handler = .idle
  | .calling => True
  | .waiting =>
      request.sync = true ∧ ∃ result left, request.handler = .answered .success result left
  | .returned code none =>
      request.handler = .idle ∧ code ≠ .success ∨ request.handler = .refused code ∨
        (∃ result left, request.handler = .answered code result left ∧
          (request.sync = true → code ≠ .success)) ∨
        request.sync = true ∧ code = .timeOut ∧
          ∃ result left, request.handler = .answered .success result left
  | .returned code (some answer) =>
      request.sync = true ∧ code = .success ∧
        ∃ result left, request.handler = .answered .success result left ∧
          request.results = [answer]

/-- The request holds the lock of its process. -/
def Holds : Prop := request.caller = .calling ∨ request.caller = .waiting

theorem onRemoteRequest_responseParcel {result : String}
    (short : (request.responseParcel primitives result).length < 2 ^ 32) :
    request.onRemoteRequest primitives (request.responseParcel primitives result) =
      [request.resultOf result] := by
  have long : ¬Parcel.readable (request.responseParcel primitives result) ≤ 4 := by
    rw [UInt32.le_iff_toNat_le, Parcel.readable_of_lt short, responseParcel, List.length_append,
      primitives.length_uint32]
    have := primitives.string.length_write_pos result
    simp only [UInt32.reduceToNat]
    omega
  have text := primitives.string.readOr_write "" result []
  rw [List.append_nil] at text
  rw [onRemoteRequest, if_neg long, responseParcel]
  simp [text, resultOf]

/-- The task of a request asks the model manager for its own model. -/
def Analysed (manager : ModelManager) : Prop :=
  match request.task with
  | .idle | .submitted => True
  | .analysing call =>
      request.modelId ∈ modelIds ∧ ∃ startOnDemand stage, manager.calls.get? call =
        some { modelId := request.modelId.toNat, request := .getResult startOnDemand, stage }
  | .settled none result => request.modelId ∉ modelIds ∧ result = unknownStatus
  | .settled (some call) result =>
      request.modelId ∈ modelIds ∧ ∃ startOnDemand, manager.calls.get? call =
        some { modelId := request.modelId.toNat, request := .getResult startOnDemand
               stage := .finished (.result result) }

variable {request} {manager after : ModelManager}

/-- The calls of the model manager only go on. -/
theorem Analysed.later (analysed : request.Analysed manager)
    (later : ∀ id call, manager.calls.get? id = some call →
      ∃ call', after.calls.get? id = some call' ∧ call.Later call') : request.Analysed after := by
  unfold Analysed at analysed ⊢
  split at analysed
  · exact trivial
  · exact trivial
  · obtain ⟨supported, startOnDemand, stage, found⟩ := analysed
    obtain ⟨call', found', stage', rfl, -⟩ := later _ _ found
    exact ⟨supported, startOnDemand, stage', found'⟩
  · exact analysed
  · obtain ⟨supported, startOnDemand, found⟩ := analysed
    obtain ⟨call', found', stage', rfl, finished⟩ := later _ _ found
    rw [finished _ rfl] at found'
    exact ⟨supported, startOnDemand, found'⟩

/-- A call of a task is a call of the model manager. -/
theorem Analysed.known (analysed : request.Analysed manager) {call : ModelCallId}
    (calls : request.task.call? = some call) : manager.calls.contains call = true := by
  unfold Analysed at analysed
  split at analysed
  next task => simp [task, TaskStage.call?] at calls
  next task => simp [task, TaskStage.call?] at calls
  next call' task =>
    obtain ⟨-, startOnDemand, stage, found⟩ := analysed
    obtain rfl : call' = call := by simpa [task, TaskStage.call?] using calls
    exact SortedMap.contains_iff.mpr ⟨_, found⟩
  next task => simp [task, TaskStage.call?] at calls
  next call' result task =>
    obtain ⟨-, startOnDemand, found⟩ := analysed
    obtain rfl : call' = call := by simpa [task, TaskStage.call?] using calls
    exact SortedMap.contains_iff.mpr ⟨_, found⟩

end ResultRequest

/-! ## All requests -/

namespace RiskAnalysis

variable (primitives : Parcel.Primitives)

/-- The request that has the lock of a process. -/
def Holder (state : RiskAnalysis) (process : ProcessId) (id : ResultRequestId) : Prop :=
  ∃ request, state.requests.get? id = some request ∧ request.process = process ∧ request.Holds

/-- What holds of the requests in every reachable state. -/
structure Sound (state : RiskAnalysis) : Prop where
  handled : ∀ id request, state.requests.get? id = some request → request.Handled primitives
  asked : ∀ id request, state.requests.get? id = some request → request.Asked
  analysed : ∀ id request, state.requests.get? id = some request → request.Analysed state.manager
  own : ∀ id other request request' call, state.requests.get? id = some request →
    state.requests.get? other = some request' → request.task.call? = some call →
      request'.task.call? = some call → id = other
  locks : ∀ process id, state.gMutex.get? process = some id ↔ state.Holder process id

variable {primitives} {state after : RiskAnalysis} {id : ResultRequestId}
  {request request' : ResultRequest}

theorem sound_initial : ({} : RiskAnalysis).Sound primitives where
  handled _ _ found := absurd found (by simp)
  asked _ _ found := absurd found (by simp)
  analysed _ _ found := absurd found (by simp)
  own _ _ _ _ _ found := absurd found (by simp)
  locks _ _ := iff_of_false (by simp) fun ⟨_, found, _⟩ => absurd found (by simp)

theorem holder_insert (requests : after.requests = state.requests.insert id request')
    (process : ProcessId) (other : ResultRequestId) :
    after.Holder process other ↔
      if other = id then request'.process = process ∧ request'.Holds
      else state.Holder process other := by
  unfold Holder
  rw [requests]
  split_ifs with same
  · simp [same]
  · simp [SortedMap.get?_insert, same]

/-- One request changes, to one that is sound on its own. -/
theorem Sound.change (sound : state.Sound primitives)
    (requests : after.requests = state.requests.insert id request')
    (manager : after.manager = state.manager) (handled : request'.Handled primitives)
    (asked : request'.Asked) (analysed : request'.Analysed state.manager)
    (own : ∀ call, request'.task.call? = some call → ∀ other request'', other ≠ id →
      state.requests.get? other = some request'' → request''.task.call? ≠ some call)
    (locks : ∀ process other, after.gMutex.get? process = some other ↔
      if other = id then request'.process = process ∧ request'.Holds
      else state.Holder process other) : after.Sound primitives where
  handled other changed found := by
    rw [requests] at found
    rcases SortedMap.get?_insert_eq_some.mp found with ⟨-, rfl⟩ | ⟨-, found⟩
    · exact handled
    · exact sound.handled other changed found
  asked other changed found := by
    rw [requests] at found
    rcases SortedMap.get?_insert_eq_some.mp found with ⟨-, rfl⟩ | ⟨-, found⟩
    · exact asked
    · exact sound.asked other changed found
  analysed other changed found := by
    rw [requests] at found
    rw [manager]
    rcases SortedMap.get?_insert_eq_some.mp found with ⟨-, rfl⟩ | ⟨-, found⟩
    · exact analysed
    · exact sound.analysed other changed found
  own first second r r' call found found' calls calls' := by
    rw [requests] at found found'
    rcases SortedMap.get?_insert_eq_some.mp found with ⟨rfl, rfl⟩ | ⟨apart, kept⟩ <;>
      rcases SortedMap.get?_insert_eq_some.mp found' with ⟨rfl, rfl⟩ | ⟨apart', kept'⟩
    · rfl
    · exact absurd calls' (own call calls second r' apart' kept')
    · exact absurd calls (own call calls' first r apart kept)
    · exact sound.own first second r r' call kept kept' calls calls'
  locks process other := (locks process other).trans (holder_insert requests process other).symm

theorem Sound.apart (sound : state.Sound primitives) (found : state.requests.get? id = some request)
    {task : TaskStage} (same : ∀ call, task.call? = some call → request.task.call? = some call)
    (call : ModelCallId) (calls : task.call? = some call) (other : ResultRequestId)
    (request' : ResultRequest) (different : other ≠ id)
    (found' : state.requests.get? other = some request') : request'.task.call? ≠ some call :=
  fun calls' =>
    different (sound.own other id request' request call found' found calls' (same call calls))

/-- The same, where the request keeps its process and neither takes nor gives back the lock. -/
theorem Sound.put (sound : state.Sound primitives) (found : state.requests.get? id = some request)
    (handled : request'.Handled primitives) (asked : request'.Asked)
    (analysed : request'.Analysed state.manager)
    (own : ∀ call, request'.task.call? = some call → ∀ other request'', other ≠ id →
      state.requests.get? other = some request'' → request''.task.call? ≠ some call)
    (process : request'.process = request.process) (holds : request'.Holds ↔ request.Holds) :
    (state.put id request').Sound primitives := by
  refine sound.change rfl rfl handled asked analysed own fun process' other => ?_
  refine (sound.locks process' other).trans ?_
  split_ifs with same
  · subst same
    rw [process, holds]
    constructor
    · rintro ⟨known, found', rest⟩
      exact Option.some.inj (found'.symm.trans found) ▸ rest
    · exact fun rest => ⟨request, found, rest⟩
  · exact Iff.rfl

section Steps

theorem Sound.lock (sound : state.Sound primitives) (found : state.requests.get? id = some request)
    (locking : request.caller = .locking) (free : state.gMutex.contains request.process = false) :
    ({ state.put id { request with caller := .calling } with
      gMutex := state.gMutex.insert request.process id } : RiskAnalysis).Sound primitives := by
  have unlocked : state.gMutex.get? request.process = none := by
    simpa [SortedMap.contains] using free
  refine sound.change rfl rfl (sound.handled id request found) trivial
    (sound.analysed id request found) (sound.apart found fun _ calls => calls) ?_
  intro process other
  rw [SortedMap.get?_insert]
  split_ifs with here same same
  · exact iff_of_true (congrArg some same.symm) ⟨here.symm, .inl rfl⟩
  · refine iff_of_false (fun taken => same (Option.some.inj taken).symm) fun holder => ?_
    have held := (sound.locks process other).mpr holder
    rw [here, unlocked] at held
    exact absurd held (by simp)
  · refine iff_of_false (fun taken => ?_) fun holder => here holder.1.symm
    obtain ⟨known, found', -, holds⟩ := (sound.locks process other).mp taken
    obtain rfl := Option.some.inj (found'.symm.trans (same ▸ found))
    rcases holds with calling | waiting
    · exact absurd (locking.symm.trans calling) (by simp)
    · exact absurd (locking.symm.trans waiting) (by simp)
  · exact sound.locks process other

/-- A caller that returns gives back its lock. -/
theorem Sound.returns (sound : state.Sound primitives)
    (found : state.requests.get? id = some request) (holds : request.Holds) {code : Code}
    {result : Option SecurityModelResult}
    (asked : ({ request with caller := .returned code result } : ResultRequest).Asked) :
    (state.advance id request (.returned code result)).Sound primitives := by
  have own : state.gMutex.get? request.process = some id :=
    (sound.locks _ _).mpr ⟨request, found, rfl, holds⟩
  refine sound.change rfl rfl (sound.handled id request found) asked
    (sound.analysed id request found) (sound.apart found fun _ calls => calls) ?_
  intro process other
  change (state.gMutex.erase request.process).get? process = some other ↔ _
  rw [SortedMap.get?_erase_eq_some]
  split_ifs with same
  · refine iff_of_false ?_ fun holder => by rcases holder.2 with stage | stage <;> simp at stage
    rintro ⟨elsewhere, taken⟩
    obtain ⟨known, found', here, -⟩ := (sound.locks process other).mp taken
    obtain rfl := Option.some.inj (found'.symm.trans (same ▸ found))
    exact elsewhere here.symm
  · refine Iff.trans ⟨And.right, fun taken => ⟨?_, taken⟩⟩ (sound.locks process other)
    rintro rfl
    exact same (Option.some.inj (taken.symm.trans own))

theorem Sound.calling (sound : state.Sound primitives)
    (found : state.requests.get? id = some request) (waiting : request.handler = .waiting) :
    request.caller = .calling := by
  have asked := sound.asked id request found
  unfold ResultRequest.Asked at asked
  cases stage : request.caller with
  | calling => rfl
  | locking => simp [stage, waiting] at asked
  | waiting => simp [stage, waiting] at asked
  | returned code result => cases result <;> simp [stage, waiting] at asked

theorem Sound.enter (sound : state.Sound primitives)
    (found : state.requests.get? id = some request) (calling : request.caller = .calling)
    (idle : request.handler = .idle) : (state.put id request.enter).Sound primitives := by
  have handled := sound.handled id request found
  simp only [ResultRequest.Handled, idle] at handled
  obtain ⟨task, flying, results⟩ := handled
  rw [ResultRequest.enter]
  split_ifs with refused
  · exact sound.put found ⟨refused, task, flying, results⟩ (by simp [ResultRequest.Asked, calling])
      (sound.analysed id request found) (sound.apart found fun _ calls => calls) rfl Iff.rfl
  · exact sound.put found ⟨not_not.mp refused, flying, results⟩
      (by simp [ResultRequest.Asked, calling]) trivial
      (fun _ calls => absurd calls (by simp [TaskStage.call?])) rfl Iff.rfl

/-- The task of a request goes on. -/
theorem Sound.task (sound : state.Sound primitives)
    (found : state.requests.get? id = some request) {task : TaskStage}
    (begun : request.task ≠ .idle) (open' : request.task.result? = none)
    (analysed : ({ request with task } : ResultRequest).Analysed state.manager)
    (own : ∀ call, task.call? = some call → ∀ other request'', other ≠ id →
      state.requests.get? other = some request'' → request''.task.call? ≠ some call) :
    (state.put id { request with task }).Sound primitives := by
  refine sound.put found ?_ (sound.asked id request found) analysed own rfl Iff.rfl
  have handled := sound.handled id request found
  unfold ResultRequest.Handled at handled ⊢
  dsimp only
  split at handled
  · exact absurd handled.1 begun
  · exact handled
  · exact absurd handled.2.1 begun
  · refine ⟨handled.1, handled.2.1, .inr ?_⟩
    rcases handled.2.2 with ⟨-, result⟩ | late
    · exact absurd (open'.symm.trans result) (by simp)
    · exact late

theorem Sound.respond (sound : state.Sound primitives)
    (found : state.requests.get? id = some request) (waiting : request.handler = .waiting)
    {code : Code} {result : String} (carried : Bool)
    (from' : code = .success ∧ request.task.result? = some result ∨ code = .timeOut ∧ result = "") :
    (state.put id (request.respond primitives code result carried)).Sound primitives := by
  have calling := sound.calling found waiting
  have handled := sound.handled id request found
  simp only [ResultRequest.Handled, waiting] at handled
  obtain ⟨permitted, -, results⟩ := handled
  refine sound.put found ⟨permitted, ?_, from'⟩
    (by simp [ResultRequest.Asked, ResultRequest.respond, calling])
    (sound.analysed id request found) (sound.apart found fun _ calls => calls) rfl Iff.rfl
  unfold ResultRequest.Called
  split_ifs with left
  · have short := of_decide_eq_true (Bool.and_eq_true_iff.mp left).2
    exact ⟨short, .inl ⟨if_pos left, results⟩⟩
  · exact ⟨if_neg left, results⟩

theorem Sound.deliver (sound : state.Sound primitives)
    (found : state.requests.get? id = some request) {data : List UInt8}
    (flying : request.flying = some data) :
    (state.put id { request with
      flying := none
      results := request.results ++ request.onRemoteRequest primitives data }).Sound
        primitives := by
  have handled := sound.handled id request found
  have asked := sound.asked id request found
  unfold ResultRequest.Handled at handled
  split at handled
  · simp [flying] at handled
  · simp [flying] at handled
  · simp [flying] at handled
  next code result left answered =>
    obtain ⟨permitted, called, from'⟩ := handled
    unfold ResultRequest.Called at called
    split_ifs at called with carried
    · obtain ⟨short, ⟨flew, results⟩ | ⟨landed, -⟩⟩ := called
      · obtain rfl := Option.some.inj (flying.symm.trans flew)
        have received := request.onRemoteRequest_responseParcel primitives short
        refine sound.put found ?_ ?_ (sound.analysed id request found)
          (sound.apart found fun _ calls => calls) rfl Iff.rfl
        · simp only [ResultRequest.Handled, answered]
          refine ⟨permitted, ?_, from'⟩
          rw [ResultRequest.Called, if_pos carried]
          refine ⟨short, .inr ⟨rfl, ?_⟩⟩
          rw [results, received]
          rfl
        · unfold ResultRequest.Asked at asked ⊢
          cases stage : request.caller with
          | locking => simp [stage, answered] at asked
          | calling => exact trivial
          | waiting =>
              rw [stage] at asked
              exact asked
          | returned code result =>
              rw [stage] at asked
              cases result with
              | none => exact asked
              | some answer =>
                  obtain ⟨-, -, _, _, -, filled⟩ := asked
                  simp [results] at filled
      · simp [flying] at landed
    · simp [flying] at called

theorem Sound.manager (sound : state.Sound primitives) {manager : ModelManager}
    {action : ModelAction} (taken : state.manager.next action = some manager) :
    ({ state with manager } : RiskAnalysis).Sound primitives where
  handled := sound.handled
  asked := sound.asked
  analysed id request found := (sound.analysed id request found).later fun _ _ known =>
    ModelManager.later_of_next taken known
  own := sound.own
  locks := sound.locks

theorem Sound.run (sound : state.Sound primitives)
    (found : state.requests.get? id = some request) (submitted : request.task = .submitted)
    (supported : request.modelId ∈ modelIds) {call : ModelCallId} {startOnDemand : Option Bool}
    {manager : ModelManager}
    (taken : state.manager.next
      (.call call request.modelId.toNat (.getResult startOnDemand)) = some manager) :
    ({ state.put id { request with task := .analysing call } with
      manager } : RiskAnalysis).Sound primitives := by
  have later : ({ state with manager } : RiskAnalysis).Sound primitives := sound.manager taken
  simp only [ModelManager.next] at taken
  split_ifs at taken with used
  obtain rfl := Option.some.inj taken
  refine later.task found (by simp [submitted]) (by simp [submitted, TaskStage.result?])
    ⟨supported, startOnDemand, _, SortedMap.get?_insert_self _ _ _⟩ ?_
  intro call' same other request' _ found' calls
  obtain rfl := Option.some.inj same
  exact used ((sound.analysed other request' found').known calls)

theorem Sound.reply (sound : state.Sound primitives)
    (found : state.requests.get? id = some request) (calling : request.caller = .calling)
    {stage : CallerStage} (replied : request.replied = some stage) :
    (state.advance id request stage).Sound primitives := by
  rw [ResultRequest.replied] at replied
  cases answered : request.handler with
  | idle | waiting => simp [answered] at replied
  | refused code =>
      rw [answered] at replied
      obtain rfl := Option.some.inj replied
      exact sound.returns found (.inl calling) (.inr (.inl answered))
  | answered code result left =>
      rw [answered] at replied
      dsimp only at replied
      split_ifs at replied with waits
      · obtain rfl := Option.some.inj replied
        obtain ⟨sync, rfl⟩ := waits
        exact sound.put found (sound.handled id request found) ⟨sync, result, left, answered⟩
          (sound.analysed id request found) (sound.apart found fun _ calls => calls) rfl
          (iff_of_true (.inr rfl) (.inl calling))
      · obtain rfl := Option.some.inj replied
        exact sound.returns found (.inl calling)
          (.inr (.inr (.inl ⟨result, left, answered, fun sync same => waits ⟨sync, same⟩⟩)))

theorem Sound.finish (sound : state.Sound primitives)
    (found : state.requests.get? id = some request) (waiting : request.caller = .waiting)
    {answer : SecurityModelResult} (first : request.results.head? = some answer) :
    (state.advance id request (.returned .success (some answer))).Sound primitives := by
  have handled := sound.handled id request found
  have asked := sound.asked id request found
  simp only [ResultRequest.Asked, waiting] at asked
  obtain ⟨sync, result, left, answered⟩ := asked
  simp only [ResultRequest.Handled, answered] at handled
  have called := handled.2.1
  have single : request.results = [answer] := by
    unfold ResultRequest.Called at called
    split_ifs at called
    · rcases called.2 with ⟨-, none⟩ | ⟨-, one⟩
      · simp [none] at first
      · rw [one] at first ⊢
        rw [Option.some.inj first]
    · simp [called.2] at first
  exact sound.returns found (.inr waiting) ⟨sync, rfl, result, left, answered, single⟩

/-- Every step keeps the requests sound. -/
theorem Sound.step (sound : state.Sound primitives) {action : ResultAction}
    (found : state.requests.get? id = some request)
    (taken : state.step primitives id request action = some after) : after.Sound primitives := by
  have handled := sound.handled id request found
  have asked := sound.asked id request found
  cases action with
  | request | manager => simp [RiskAnalysis.step] at taken
  | lock =>
      obtain ⟨⟨locking, free⟩, rfl⟩ := Option.ite_some_none_eq_some.mp taken
      exact sound.lock found locking free
  | fail other code =>
      obtain ⟨⟨calling, idle, failed⟩, rfl⟩ := Option.ite_some_none_eq_some.mp taken
      exact sound.returns found (.inl calling) (.inl ⟨idle, failed⟩)
  | enter =>
      obtain ⟨⟨calling, idle⟩, rfl⟩ := Option.ite_some_none_eq_some.mp taken
      exact sound.enter found calling idle
  | run other call startOnDemand =>
      simp only [RiskAnalysis.step] at taken
      split_ifs at taken with waiting supported
      · have submitted := not_not.mp waiting
        obtain ⟨manager, called, rfl⟩ := Option.map_eq_some_iff.mp taken
        exact sound.run found submitted supported called
      · obtain rfl := Option.some.inj taken
        have submitted := not_not.mp waiting
        exact sound.task found (by simp [submitted]) (by simp [submitted, TaskStage.result?])
          ⟨supported, rfl⟩ fun _ calls => absurd calls (by simp [TaskStage.call?])
  | settle =>
      simp only [RiskAnalysis.step] at taken
      split at taken
      next call task =>
        split at taken
        next result finished =>
          obtain rfl := Option.some.inj taken
          have analysed := sound.analysed id request found
          simp only [ResultRequest.Analysed, task] at analysed
          obtain ⟨supported, startOnDemand, stage, known⟩ := analysed
          rw [known, Option.map_some] at finished
          obtain rfl := Option.some.inj finished
          refine sound.task found (by simp [task]) (by simp [task, TaskStage.result?])
            ⟨supported, startOnDemand, known⟩ (sound.apart found fun _ calls => ?_)
          rw [task]
          exact calls
        next => exact absurd taken (by simp)
      next => exact absurd taken (by simp)
  | answer other carried =>
      obtain ⟨waiting, taken⟩ := Option.ite_none_right_eq_some.mp taken
      obtain ⟨result, settled, rfl⟩ := Option.map_eq_some_iff.mp taken
      exact sound.respond found waiting carried (.inl ⟨rfl, settled⟩)
  | expire other carried =>
      obtain ⟨⟨waiting, -⟩, rfl⟩ := Option.ite_some_none_eq_some.mp taken
      exact sound.respond found waiting carried (.inr ⟨rfl, rfl⟩)
  | deliver =>
      obtain ⟨data, flying, rfl⟩ := Option.map_eq_some_iff.mp taken
      exact sound.deliver found flying
  | reply =>
      obtain ⟨calling, taken⟩ := Option.ite_none_right_eq_some.mp taken
      obtain ⟨stage, replied, rfl⟩ := Option.map_eq_some_iff.mp taken
      exact sound.reply found calling replied
  | finish =>
      obtain ⟨waiting, taken⟩ := Option.ite_none_right_eq_some.mp taken
      obtain ⟨answer, first, rfl⟩ := Option.map_eq_some_iff.mp taken
      exact sound.finish found waiting first
  | timeout =>
      obtain ⟨⟨waiting, -⟩, rfl⟩ := Option.ite_some_none_eq_some.mp taken
      simp only [ResultRequest.Asked, waiting] at asked
      exact sound.returns found (.inr waiting) (.inr (.inr (.inr ⟨asked.1, rfl, asked.2⟩)))

theorem Sound.opened (sound : state.Sound primitives)
    (fresh : state.requests.contains id = false) (request : ResultRequest) (callback : Bool) :
    (state.put id (request.opened callback)).Sound primitives := by
  have absent : state.requests.get? id = none := by simpa [SortedMap.contains] using fresh
  refine sound.change rfl rfl ⟨rfl, rfl, rfl⟩ ?_ trivial
    (fun _ calls => absurd calls (by simp [ResultRequest.opened, TaskStage.call?])) ?_
  · unfold ResultRequest.Asked ResultRequest.opened
    dsimp only
    split_ifs
    · exact .inl ⟨rfl, by decide⟩
    · rfl
  · intro process other
    refine (sound.locks process other).trans ?_
    split_ifs with same
    · subst same
      refine iff_of_false (fun holder => ?_) fun holder => ?_
      · obtain ⟨known, found, -⟩ := holder
        exact absurd (absent.symm.trans found) (by simp)
      · unfold ResultRequest.Holds ResultRequest.opened at holder
        dsimp only at holder
        split_ifs at holder <;> simp at holder
    · exact Iff.rfl

theorem Sound.next (sound : state.Sound primitives) {action : ResultAction}
    (taken : RiskAnalysis.next primitives state action = some after) : after.Sound primitives := by
  cases action with
  | request id request callback =>
      obtain ⟨fresh, opened⟩ := Option.ite_none_left_eq_some.mp taken
      obtain rfl := Option.some.inj opened
      exact sound.opened (Bool.not_eq_true _ ▸ fresh) request callback
  | manager action =>
      obtain ⟨manager, stepped, rfl⟩ := Option.map_eq_some_iff.mp taken
      exact sound.manager stepped
  | lock | fail | enter | run | settle | answer | expire | deliver | reply | finish | timeout =>
      obtain ⟨request, found, stepped⟩ := Option.bind_eq_some_iff.mp taken
      exact sound.step found stepped

theorem sound_of_reach {actions : List ResultAction} {final : RiskAnalysis}
    (reach : Transition.run (RiskAnalysis.next primitives) {} actions = some final) :
    final.Sound primitives :=
  Transition.run_stable (fun sound taken => Sound.next sound taken) sound_initial reach

end Steps

/-- A system application asks for a model that has an instance. -/
def asked : ResultRequest where
  process := 1
  token := { pid := 7, uid := 7, tokenType := .hap, isSystemApp := true
             permissions := [RiskApi.querySecurityModelResultPermission] }
  sync := true
  devId := "device"
  modelId := 3001000000
  param := "param"

/-- The model is loaded, and the request runs to its end. -/
def askedOnce : List ResultAction :=
  [.manager (.call 1 3001000000 .initModel), .manager (.proceed 1 (.code 0)),
    .manager (.load 1 (.initialised 9)), .manager (.proceed 1 (.code 0)), .request 0 asked true,
    .lock 0, .enter 0, .run 0 2 (some false), .manager (.proceed 2 (.code 0)),
    .manager (.proceed 2 (.result "safe")), .manager (.proceed 2 (.code 0)), .settle 0,
    .answer 0 true, .reply 0, .deliver 0, .finish 0]

/-- The state after some of these steps. -/
def afterFirst (number : ℕ) (state : RiskAnalysis) : RiskAnalysis :=
  (Transition.run (RiskAnalysis.next .standard) state (askedOnce.take number)).getD state

/-- The request as it has returned. -/
def answeredOnce : ResultRequest :=
  { asked with
    caller := .returned .success (some (asked.resultOf "safe"))
    handler := .answered .success "safe" true
    task := .settled (some 2) "safe"
    results := [asked.resultOf "safe"] }

section Results

variable {actions : List ResultAction} {final : RiskAnalysis}

/-- What a request returns is what its own task found: the answer of a call of the model manager
for this model, which is the call of no other request, or nothing known of a model that is not
analysed. -/
theorem results_are_their_own
    (reach : Transition.run (RiskAnalysis.next primitives) {} actions = some final)
    (found : final.requests.get? id = some request) {code : Code} {answer : SecurityModelResult}
    (returned : request.caller = .returned code (some answer)) :
    code = .success ∧ request.sync = true ∧ request.Permitted ∧
      answer = request.resultOf answer.result ∧
      if request.modelId ∈ modelIds then
        ∃ call startOnDemand,
          final.manager.calls.get? call =
            some { modelId := request.modelId.toNat, request := .getResult startOnDemand
                   stage := .finished (.result answer.result) } ∧
          ∀ other request', final.requests.get? other = some request' →
            (request'.task.call? = some call ↔ other = id)
      else answer.result = unknownStatus := by
  have sound := sound_of_reach reach
  have asked := sound.asked id request found
  have handled := sound.handled id request found
  have analysed := sound.analysed id request found
  simp only [ResultRequest.Asked, returned] at asked
  obtain ⟨sync, rfl, result, left, answered, single⟩ := asked
  simp only [ResultRequest.Handled, answered] at handled
  obtain ⟨permitted, called, from'⟩ := handled
  have own : answer = request.resultOf result := by
    unfold ResultRequest.Called at called
    split_ifs at called
    · rcases called.2 with ⟨-, none⟩ | ⟨-, one⟩
      · simp [none] at single
      · exact List.singleton_inj.mp (single.symm.trans one)
    · simp [called.2] at single
  have text : answer.result = result := congrArg SecurityModelResult.result own
  refine ⟨rfl, sync, permitted, text.symm ▸ own, ?_⟩
  have settled : request.task.result? = some result :=
    from'.elim And.right fun late => absurd late.1 (by decide)
  rw [text]
  cases task : request.task with
  | idle | submitted | analysing => simp [task, TaskStage.result?] at settled
  | settled call? value =>
      obtain rfl : value = result := by simpa [task, TaskStage.result?] using settled
      cases call? with
      | none =>
          simp only [ResultRequest.Analysed, task] at analysed
          rw [if_neg analysed.1]
          exact analysed.2
      | some call =>
          simp only [ResultRequest.Analysed, task] at analysed
          obtain ⟨supported, startOnDemand, known⟩ := analysed
          rw [if_pos supported]
          refine ⟨call, startOnDemand, known, fun other request' found' => ?_⟩
          have calls : request.task.call? = some call := by rw [task]; rfl
          constructor
          · exact fun calls' => sound.own other id request' request call found' found calls' calls
          · rintro rfl
            exact Option.some.inj (found'.symm.trans found) ▸ calls

theorem results_are_their_own_once :
    ∃ call startOnDemand, (afterFirst 16 {}).manager.calls.get? call =
      some { modelId := 3001000000, request := .getResult startOnDemand
             stage := .finished (.result "safe") } := by
  have own := (results_are_their_own (Transition.run_eq_getD rfl)
    (show (afterFirst 16 {}).requests.get? 0 = some answeredOnce from rfl) rfl).2.2.2.2
  rw [if_pos (by decide)] at own
  obtain ⟨call, startOnDemand, known, -⟩ := own
  exact ⟨call, startOnDemand, known⟩

/-- The function of the caller has been called, or its callback is on its way, exactly if the
handler has answered and its call left: with the result of the task, or with nothing if the handler
gave up.  An asynchronous request that succeeds has been answered with its result. -/
theorem called_back_once
    (reach : Transition.run (RiskAnalysis.next primitives) {} actions = some final)
    (found : final.requests.get? id = some request) :
    request.results.length + request.flying.toList.length = request.handler.callbacks ∧
      (∀ answer ∈ request.results, ∃ code result,
        request.handler = .answered code result true ∧ answer = request.resultOf result) ∧
      (∀ code result left, request.handler = .answered code result left →
        request.Permitted ∧ (code = .success ∧ request.task.result? = some result ∨
          code = .timeOut ∧ result = "")) ∧
      ∀ code answer, request.sync = false → request.caller = .returned code answer →
        answer = none ∧ (code = .success →
          ∃ result left, request.handler = .answered .success result left) := by
  have sound := sound_of_reach reach
  have handled := sound.handled id request found
  have asked := sound.asked id request found
  refine ⟨?_, ?_, ?_, ?_⟩
  · unfold ResultRequest.Handled at handled
    split at handled
    next stage => simp [handled, stage, HandlerStage.callbacks]
    next stage => simp [handled, stage, HandlerStage.callbacks]
    next stage => simp [handled, stage, HandlerStage.callbacks]
    next code result left stage =>
      obtain ⟨-, called, -⟩ := handled
      unfold ResultRequest.Called at called
      split_ifs at called with carried
      · subst carried
        rcases called.2 with ⟨flying, results⟩ | ⟨flying, results⟩ <;>
          simp [flying, results, stage, HandlerStage.callbacks]
      · simp [called, stage, HandlerStage.callbacks, carried]
  · intro answer mem
    unfold ResultRequest.Handled at handled
    split at handled
    next => simp [handled] at mem
    next => simp [handled] at mem
    next => simp [handled] at mem
    next code result left stage =>
      obtain ⟨-, called, -⟩ := handled
      unfold ResultRequest.Called at called
      split_ifs at called with carried
      · subst carried
        rcases called.2 with ⟨-, none⟩ | ⟨-, one⟩
        · simp [none] at mem
        · exact ⟨code, result, stage, List.mem_singleton.mp (one ▸ mem)⟩
      · simp [called.2] at mem
  · intro code result left stage
    simp only [ResultRequest.Handled, stage] at handled
    exact ⟨handled.1, handled.2.2⟩
  · intro code answer async returned
    unfold ResultRequest.Asked at asked
    rw [returned] at asked
    cases answer with
    | some answer => exact absurd (async.symm.trans asked.1) (by simp)
    | none =>
        refine ⟨rfl, ?_⟩
        rintro rfl
        rcases asked with ⟨-, failed⟩ | refused | ⟨result, left, answered, -⟩ | ⟨sync, -⟩
        · exact absurd rfl failed
        · simp only [ResultRequest.Handled, refused] at handled
          exact absurd rfl handled.1
        · exact ⟨result, left, answered⟩
        · exact absurd (async.symm.trans sync) (by simp)

theorem called_back_once_once :
    answeredOnce.results.length + answeredOnce.flying.toList.length = 1 :=
  (called_back_once (Transition.run_eq_getD rfl)
    (show (afterFirst 16 {}).requests.get? 0 = some answeredOnce from rfl)).1

/-- The lock of a process is held by the one request of the process that is in its remote call or
waits, and by none if there is no such request. -/
theorem lock_is_held_by_one
    (reach : Transition.run (RiskAnalysis.next primitives) {} actions = some final) :
    (∀ process id, final.gMutex.get? process = some id ↔ final.Holder process id) ∧
      ∀ process id other, final.Holder process id → final.Holder process other → id = other := by
  have locks := (sound_of_reach reach).locks
  refine ⟨locks, fun process id other holder holder' => ?_⟩
  exact Option.some.inj (((locks process id).mpr holder).symm.trans
    ((locks process other).mpr holder'))

theorem lock_is_held_by_one_once : ¬(afterFirst 16 {}).Holder 1 0 := fun holder =>
  absurd (((lock_is_held_by_one (Transition.run_eq_getD rfl)).1 1 0).mpr holder) (by decide +kernel)

end Results

/-! ## No request waits for ever -/

section Progress

variable (primitives) in
/-- The request can return in some of its own steps, and its process has the lock back then. -/
def Returns (state : RiskAnalysis) (id : ResultRequestId) (process : ProcessId) (bound : ℕ) :
    Prop :=
  ∃ actions : List ResultAction, actions.length ≤ bound ∧
    (∀ action ∈ actions, action.waited? = some id) ∧
      ∃ later request code answer,
        Transition.run (RiskAnalysis.next primitives) state actions = some later ∧
          later.requests.get? id = some request ∧ request.caller = .returned code answer ∧
            later.gMutex = state.gMutex.erase process ∧
              ∀ other, other ≠ id → later.requests.get? other = state.requests.get? other

variable {process : ProcessId} {bound : ℕ} {action : ResultAction}

theorem Returns.cons {middle : RiskAnalysis}
    (taken : RiskAnalysis.next primitives state action = some middle)
    (own : action.waited? = some id) (gMutex : middle.gMutex = state.gMutex)
    (frame : ∀ other, other ≠ id → middle.requests.get? other = state.requests.get? other)
    (rest : Returns primitives middle id process bound) :
    Returns primitives state id process (bound + 1) := by
  obtain ⟨actions, short, waited, later, request, code, answer, reach, found, returned, unlocked,
    others⟩ := rest
  refine ⟨action :: actions, Nat.succ_le_succ short, ?_, later, request, code, answer,
    Transition.run_cons_eq_some.mpr ⟨middle, taken, reach⟩, found, returned, gMutex ▸ unlocked,
    fun other different => (others other different).trans (frame other different)⟩
  exact fun other mem => (List.mem_cons.mp mem).elim (fun same => same ▸ own) (waited other)

theorem get?_put (state : RiskAnalysis) (id : ResultRequestId) (request : ResultRequest) :
    (state.put id request).requests.get? id = some request :=
  SortedMap.get?_insert_self _ _ _

theorem Returns.put {changed : ResultRequest}
    (taken : RiskAnalysis.next primitives state action = some (state.put id changed))
    (own : action.waited? = some id)
    (rest : Returns primitives (state.put id changed) id process bound) :
    Returns primitives state id process (bound + 1) :=
  rest.cons taken own rfl fun other different => by
    rw [RiskAnalysis.put, SortedMap.get?_insert, if_neg different]

theorem Returns.mono {larger : ℕ} (returns : Returns primitives state id process bound)
    (le : bound ≤ larger) : Returns primitives state id process larger := by
  obtain ⟨actions, short, rest⟩ := returns
  exact ⟨actions, short.trans le, rest⟩

theorem returns_at_once {code : Code} {answer : Option SecurityModelResult}
    (taken : RiskAnalysis.next primitives state action =
      some (state.advance id request (.returned code answer)))
    (own : action.waited? = some id) (runs : request.process = process) :
    Returns primitives state id process 1 := by
  subst runs
  refine ⟨[action], le_rfl, fun other mem => List.mem_singleton.mp mem ▸ own, _, _, code, answer,
    Transition.run_cons_eq_some.mpr ⟨_, taken, rfl⟩, SortedMap.get?_insert_self _ _ _, rfl, rfl,
    fun other different => ?_⟩
  exact (SortedMap.get?_insert _ _ _ _).trans (if_neg different)

theorem next_of_step {stepped : RiskAnalysis} (found : state.requests.get? id = some request)
    (own : action.waited? = some id)
    (taken : state.step primitives id request action = some stepped) :
    RiskAnalysis.next primitives state action = some stepped := by
  cases action with
  | request | fail | run | manager | settle | deliver => simp [ResultAction.waited?] at own
  | lock | enter | answer | expire | reply | finish | timeout =>
      obtain rfl := Option.some.inj own
      exact Option.bind_eq_some_iff.mpr ⟨request, found, taken⟩

theorem returns_of_waiting (found : state.requests.get? id = some request)
    (runs : request.process = process) (waiting : request.caller = .waiting) :
    Returns primitives state id process 1 := by
  cases results : request.results with
  | nil =>
      have taken : state.step primitives id request (.timeout id) =
          some (state.advance id request (.returned .timeOut none)) :=
        if_pos ⟨waiting, results⟩
      exact returns_at_once (next_of_step found rfl taken) rfl runs
  | cons answer others =>
      have taken : state.step primitives id request (.finish id) =
          some (state.advance id request (.returned .success (some answer))) := by
        simp [RiskAnalysis.step, waiting, results]
      exact returns_at_once (next_of_step found rfl taken) rfl runs

theorem returns_of_replied (found : state.requests.get? id = some request)
    (runs : request.process = process) (calling : request.caller = .calling) {stage : CallerStage}
    (replied : request.replied = some stage) : Returns primitives state id process 2 := by
  have taken : state.step primitives id request (.reply id) =
      some (state.advance id request stage) := by
    simp [RiskAnalysis.step, calling, replied]
  have next' := next_of_step found rfl taken
  cases stage with
  | returned code answer => exact (returns_at_once next' rfl runs).mono (by decide)
  | waiting => exact Returns.put next' rfl (returns_of_waiting (get?_put state id _) runs rfl)
  | locking | calling =>
      rw [ResultRequest.replied] at replied
      split at replied
      · simp at replied
      · simp at replied
      · simp at replied
      · split_ifs at replied <;> simp at replied

theorem returns_of_handling (found : state.requests.get? id = some request)
    (runs : request.process = process) (calling : request.caller = .calling)
    (waiting : request.handler = .waiting) :
    Returns primitives state id process 3 := by
  have responded (code : Code) (result : String) (carried : Bool) :
      ∃ stage, (request.respond primitives code result carried).replied = some stage := by
    rw [ResultRequest.replied, ResultRequest.respond]
    dsimp only
    split_ifs
    · exact ⟨_, rfl⟩
    · exact ⟨_, rfl⟩
  have onward (code : Code) (result : String) (carried : Bool) :
      Returns primitives (state.put id (request.respond primitives code result carried)) id
        process 2 := by
    obtain ⟨stage, replied⟩ := responded code result carried
    exact returns_of_replied (get?_put state id _) runs calling replied
  cases settled : request.task.result? with
  | some result =>
      have taken : state.step primitives id request (.answer id true) =
          some (state.put id (request.respond primitives .success result true)) := by
        simp [RiskAnalysis.step, waiting, settled]
      exact Returns.put (next_of_step found rfl taken) rfl (onward _ _ _)
  | none =>
      have taken : state.step primitives id request (.expire id true) =
          some (state.put id (request.respond primitives .timeOut "" true)) :=
        if_pos ⟨waiting, settled⟩
      exact Returns.put (next_of_step found rfl taken) rfl (onward _ _ _)

theorem returns_of_calling (found : state.requests.get? id = some request)
    (runs : request.process = process) (calling : request.caller = .calling) :
    Returns primitives state id process 4 := by
  cases stage : request.handler with
  | waiting => exact (returns_of_handling found runs calling stage).mono (by decide)
  | refused code =>
      have replied : request.replied = some (.returned code none) := by
        rw [ResultRequest.replied, stage]
      exact (returns_of_replied found runs calling replied).mono (by decide)
  | answered code result left =>
      have replied : ∃ next, request.replied = some next := by
        rw [ResultRequest.replied, stage]
        dsimp only
        split_ifs
        · exact ⟨_, rfl⟩
        · exact ⟨_, rfl⟩
      obtain ⟨next, replied⟩ := replied
      exact (returns_of_replied found runs calling replied).mono (by decide)
  | idle =>
      have taken : state.step primitives id request (.enter id) =
          some (state.put id request.enter) := if_pos ⟨calling, stage⟩
      refine Returns.put (next_of_step found rfl taken) rfl ?_
      have found' := get?_put state id request.enter
      rw [ResultRequest.enter] at found' ⊢
      split_ifs at found' ⊢
      · exact (returns_of_replied found' runs calling rfl).mono (by decide)
      · exact returns_of_handling found' runs calling rfl

variable (primitives) in
/-- The request can return though no task settles, no model answers and no callback arrives. -/
def CanReturn (state : RiskAnalysis) (id : ResultRequestId) (bound : ℕ) : Prop :=
  ∃ actions : List ResultAction, actions.length ≤ bound ∧
    (∀ action ∈ actions, action.waited? ≠ none) ∧
      ∃ later request code answer,
        Transition.run (RiskAnalysis.next primitives) state actions = some later ∧
          later.requests.get? id = some request ∧ request.caller = .returned code answer

theorem Returns.canReturn (returns : Returns primitives state id process bound) :
    CanReturn primitives state id bound := by
  obtain ⟨actions, short, own, later, request, code, answer, reach, found, returned, -⟩ := returns
  exact ⟨actions, short, fun action mem => by simp [own action mem], later, request, code, answer,
    reach, found, returned⟩

theorem CanReturn.mono {larger : ℕ} (returns : CanReturn primitives state id bound)
    (le : bound ≤ larger) : CanReturn primitives state id larger := by
  obtain ⟨actions, short, rest⟩ := returns
  exact ⟨actions, short.trans le, rest⟩

theorem CanReturn.later {middle : RiskAnalysis} {actions : List ResultAction} {first : ℕ}
    (short : actions.length ≤ first) (waited : ∀ action ∈ actions, action.waited? ≠ none)
    (reach : Transition.run (RiskAnalysis.next primitives) state actions = some middle)
    (rest : CanReturn primitives middle id bound) :
    CanReturn primitives state id (first + bound) := by
  obtain ⟨more, short', waited', later, request, code, answer, reach', found, returned⟩ := rest
  refine ⟨actions ++ more, ?_, ?_, later, request, code, answer, ?_, found, returned⟩
  · rw [List.length_append]
    exact Nat.add_le_add short short'
  · intro action mem
    exact (List.mem_append.mp mem).elim (waited action) (waited' action)
  · rw [Transition.run_append, reach]
    exact reach'

theorem canReturn_of_unlocked (found : state.requests.get? id = some request)
    (locking : request.caller = .locking) (free : state.gMutex.get? request.process = none) :
    CanReturn primitives state id 5 := by
  have open' : state.gMutex.contains request.process = false := by
    simp [SortedMap.contains, free]
  have taken : state.step primitives id request (.lock id) =
      some { state.put id { request with caller := .calling } with
        gMutex := state.gMutex.insert request.process id } := if_pos ⟨locking, open'⟩
  have reach : Transition.run (RiskAnalysis.next primitives) state [.lock id] = some _ :=
    Transition.run_cons_eq_some.mpr ⟨_, next_of_step found rfl taken, rfl⟩
  have returns : Returns primitives _ id request.process 4 := returns_of_calling
    (get?_put { state with gMutex := state.gMutex.insert request.process id } id
      { request with caller := .calling }) rfl rfl
  exact CanReturn.later (le_refl 1) (by simp [ResultAction.waited?]) reach returns.canReturn

/-- Every request of every run can return within nine steps of callers and handlers: first the
request that holds the lock, if there is one, then the request itself. -/
theorem every_request_can_return {actions : List ResultAction} {final : RiskAnalysis}
    (reach : Transition.run (RiskAnalysis.next primitives) {} actions = some final)
    (found : final.requests.get? id = some request) : CanReturn primitives final id 9 := by
  have sound := sound_of_reach reach
  cases stage : request.caller with
  | returned code answer =>
      exact ⟨[], by decide, fun _ mem => absurd mem List.not_mem_nil, final, request, code, answer,
        rfl, found, stage⟩
  | waiting => exact (returns_of_waiting found rfl stage).canReturn.mono (by decide)
  | calling => exact (returns_of_calling found rfl stage).canReturn.mono (by decide)
  | locking =>
      cases held : final.gMutex.get? request.process with
      | none => exact (canReturn_of_unlocked found stage held).mono (by decide)
      | some other =>
          obtain ⟨holder, found', runs, holds⟩ := (sound.locks _ _).mp held
          have returns : Returns primitives final other request.process 4 := by
            rcases holds with calling | waiting
            · exact returns_of_calling found' runs calling
            · exact (returns_of_waiting found' runs waiting).mono (by decide)
          obtain ⟨before, short, own, later, -, -, -, reach', -, -, unlocked, others⟩ := returns
          have apart : id ≠ other := by
            rintro rfl
            obtain rfl := Option.some.inj (found.symm.trans found')
            rcases holds with calling | waiting
            · exact absurd (stage.symm.trans calling) (by simp)
            · exact absurd (stage.symm.trans waiting) (by simp)
          have free : later.gMutex.get? request.process = none := by
            rw [unlocked, SortedMap.get?_erase, if_pos rfl]
          exact CanReturn.later short (fun action mem => by simp [own action mem]) reach'
            (canReturn_of_unlocked ((others id apart).trans found) stage free)

theorem every_request_can_return_once : CanReturn .standard (afterFirst 6 {}) 0 9 :=
  every_request_can_return (Transition.run_eq_getD rfl)
    (show (afterFirst 6 {}).requests.get? 0 = some { asked with caller := .calling } from rfl)

end Progress

end RiskAnalysis

end SecurityGuard
