import SecurityGuard.Event
import SecurityGuard.Foundation.Execution
import SecurityGuard.Service.Permission

/-!
# The rate of submissions

`RequestDataSubmit` takes a token before it passes an event on.  A call that finds none has
already taken one, and gives it back in a second step, so the bucket is below zero for a while.
A loop adds tokens while it finds the bucket not full; other calls come between its look and its
addition.  The counter is 32 bits wide; it is modelled by an integer that stays in that range.
-/

namespace SecurityGuard

def reportPermission : String := "ohos.permission.securityguard.REPORT_SECURITY_INFO"
def reportPermissionNew : String := "ohos.permission.REPORT_SECURITY_EVENT"

def tokenBucketMaxSize : Int := 12000
def tokenBucketStepSize : Int := 20

/-- The next step of a call of `RequestDataSubmit`. -/
inductive SubmitStage where
  | take (event : CollectorEvent)
  /-- Between the two steps of a call that found no token. -/
  | giveBack
  | upload (event : CollectorEvent)
  | finished (code : Code)
  deriving DecidableEq

/-- The next step of the loop that refills the bucket. -/
inductive RefillStage where
  | checkStop
  | load
  | add
  | sleep
  | stopped
  deriving DecidableEq

/-- The bucket, the loop that refills it and the calls that take from it. -/
structure SubmitSystem where
  tokenBucket : Int := 0
  isStopTokenBucketTask : Bool := false
  refill : RefillStage := .checkStop
  calls : SortedMap Nat SubmitStage := .empty
  deriving DecidableEq

/-- A call, a step of a call or of the loop, or the stop of the loop. -/
inductive SubmitAction where
  | requestDataSubmit (id : Nat) (caller : Caller) (eventId : Int) (version time content : String)
  /-- The next step of a call, with what `UploadEvent` returns. -/
  | proceed (id : Nat) (uploaded : Code)
  | refill
  | stop

/-- What the balance of the bucket depends on. -/
inductive SubmitEvent where
  | accepted
  | refilled
  deriving DecidableEq

/-- The permission check of `RequestDataSubmit`. -/
def checkSubmit (caller : Caller) : Code :=
  let code := isCallerHasPublicPermissions caller [reportPermission, reportPermissionNew]
  if code ≠ .success then code else isCallerHasSystemPermission caller

namespace SubmitSystem

/-- `RequestDataSubmit` up to its first step on the bucket. -/
def requestDataSubmit (caller : Caller) (eventId : Int) (version time content : String) :
    SubmitStage :=
  let ret := checkSubmit caller
  if ret ≠ .success then .finished ret
  else .take { eventId, version, timestamp := time, content }

/-- One step of a call, with the bucket after it. -/
def proceed (tokenBucket : Int) (uploaded : Code) : SubmitStage → Option (SubmitStage × Int)
  | .take event => some (if tokenBucket ≤ 0 then .giveBack else .upload event, tokenBucket - 1)
  | .giveBack => some (.finished .failed, tokenBucket + 1)
  | .upload _ => some (.finished uploaded, tokenBucket)
  | .finished _ => none

/-- One step of the loop. -/
def refillNext (system : SubmitSystem) : Option SubmitSystem :=
  match system.refill with
  | .checkStop =>
      some { system with refill := if system.isStopTokenBucketTask then .stopped else .load }
  | .load =>
      -- The limit is compared before the addition, which may therefore pass it.
      let stage := if system.tokenBucket < tokenBucketMaxSize then .add else .sleep
      some { system with refill := stage }
  | .add =>
      some { system with refill := .sleep, tokenBucket := system.tokenBucket + tokenBucketStepSize }
  | .sleep => some { system with refill := .checkStop }
  | .stopped => none

/-- The state after a step that is possible. -/
def next : Transition SubmitSystem SubmitAction := fun system action =>
  match action with
  | .requestDataSubmit id caller eventId version time content =>
      if system.calls.contains id then none
      else
        let stage := requestDataSubmit caller eventId version time content
        some { system with calls := system.calls.insert id stage }
  | .proceed id uploaded =>
      (system.calls.get? id).bind fun stage =>
        (proceed system.tokenBucket uploaded stage).map fun result =>
          { system with
            tokenBucket := result.2
            calls := system.calls.insert id result.1 }
  | .refill => system.refillNext
  | .stop => some { system with isStopTokenBucketTask := true }

/-- A call is accepted when it takes a token that is there. -/
def emit (system : SubmitSystem) : SubmitAction → List SubmitEvent
  | .proceed id _ =>
      match system.calls.get? id with
      | some (.take _) => if 0 < system.tokenBucket then [.accepted] else []
      | _ => []
  | .refill => if system.refill = .add then [.refilled] else []
  | .requestDataSubmit .. | .stop => []

/-- 1 for a call between its two steps on the bucket. -/
def awaited : SubmitStage → Nat
  | .giveBack => 1
  | .take _ | .upload _ | .finished _ => 0

/-- The number of the calls between their two steps. -/
def pending (system : SubmitSystem) : Nat := system.calls.total awaited

/-- The tokens of the bucket when every call has given back what it took in vain. -/
def balance (system : SubmitSystem) : Int := system.tokenBucket + system.pending

variable {before after : SubmitSystem}

theorem total_proceed {calls : SortedMap Nat SubmitStage} {id : Nat} {old : SubmitStage}
    (found : calls.get? id = some old) (new : SubmitStage) :
    (calls.insert id new).total awaited + awaited old = calls.total awaited + awaited new := by
  rw [SortedMap.total_insert, SortedMap.total_of_get? awaited found]
  omega

theorem awaited_requestDataSubmit (caller : Caller) (eventId : Int)
    (version time content : String) :
    awaited (requestDataSubmit caller eventId version time content) = 0 := by
  rw [requestDataSubmit]
  split_ifs <;> rfl

/-- What a step can do to the bucket, and what it emits. -/
inductive Moves (before after : SubmitSystem) : List SubmitEvent → Prop where
  | rests (bucket : after.tokenBucket = before.tokenBucket)
      (pending : after.pending = before.pending)
      (adds : after.refill = .add →
        before.refill = .add ∨ before.tokenBucket < tokenBucketMaxSize) :
      Moves before after []
  | turnsAway (bucket : after.tokenBucket = before.tokenBucket - 1)
      (pending : after.pending = before.pending + 1) (adds : after.refill = before.refill) :
      Moves before after []
  | givesBack (bucket : after.tokenBucket = before.tokenBucket + 1)
      (pending : after.pending + 1 = before.pending) (adds : after.refill = before.refill) :
      Moves before after []
  | accepts (some_left : 0 < before.tokenBucket)
      (bucket : after.tokenBucket = before.tokenBucket - 1)
      (pending : after.pending = before.pending) (adds : after.refill = before.refill) :
      Moves before after [.accepted]
  | refills (adding : before.refill = .add)
      (bucket : after.tokenBucket = before.tokenBucket + tokenBucketStepSize)
      (pending : after.pending = before.pending) (adds : after.refill ≠ .add) :
      Moves before after [.refilled]

theorem moves_proceed {id : Nat} {uploaded : Code} {stage : SubmitStage}
    {result : SubmitStage × Int} (found : before.calls.get? id = some stage)
    (proceeds : proceed before.tokenBucket uploaded stage = some result) :
    Moves before
      { before with tokenBucket := result.2, calls := before.calls.insert id result.1 }
      (before.emit (.proceed id uploaded)) := by
  have total := total_proceed found result.1
  rw [emit, found]
  cases stage with
  | take event =>
      obtain rfl := Option.some.inj proceeds
      by_cases empty : before.tokenBucket ≤ 0
      · rw [if_neg (not_lt.mpr empty)]
        simp only [if_pos empty] at total ⊢
        exact .turnsAway rfl total rfl
      · rw [if_pos (not_le.mp empty)]
        simp only [if_neg empty] at total ⊢
        exact .accepts (not_le.mp empty) rfl total rfl
  | giveBack =>
      obtain rfl := Option.some.inj proceeds
      exact .givesBack rfl total rfl
  | upload event =>
      obtain rfl := Option.some.inj proceeds
      exact .rests rfl total .inl
  | finished code => exact absurd proceeds (by simp [proceed])

theorem moves_refill (taken : before.refillNext = some after) :
    Moves before after (before.emit .refill) := by
  rw [refillNext] at taken
  cases stage : before.refill with
  | checkStop =>
      simp only [stage, Option.some.injEq] at taken
      subst taken
      have silent : before.emit .refill = [] := by simp [emit, stage]
      rw [silent]
      exact .rests rfl rfl (by dsimp only; split_ifs <;> simp)
  | load =>
      simp only [stage, Option.some.injEq] at taken
      subst taken
      have silent : before.emit .refill = [] := by simp [emit, stage]
      rw [silent]
      refine .rests rfl rfl fun adds => .inr ?_
      by_contra full
      exact absurd adds (by simp [full])
  | add =>
      simp only [stage, Option.some.injEq] at taken
      subst taken
      have refilled : before.emit .refill = [.refilled] := by simp [emit, stage]
      rw [refilled]
      exact .refills stage rfl rfl (by simp)
  | sleep =>
      simp only [stage, Option.some.injEq] at taken
      subst taken
      have silent : before.emit .refill = [] := by simp [emit, stage]
      rw [silent]
      exact .rests rfl rfl (by simp)
  | stopped => simp [stage] at taken

theorem moves_next {action : SubmitAction} (taken : next before action = some after) :
    Moves before after (before.emit action) := by
  cases action with
  | requestDataSubmit id caller eventId version time content =>
      simp only [next] at taken
      split_ifs at taken with used
      obtain rfl := Option.some.inj taken
      have fresh : before.calls.get? id = none := by simpa [SortedMap.contains] using used
      refine .rests rfl ?_ .inl
      rw [pending, SortedMap.total_insert_of_fresh awaited _ fresh, awaited_requestDataSubmit,
        pending, Nat.zero_add]
  | proceed id uploaded =>
      obtain ⟨stage, found, rest⟩ := Option.bind_eq_some_iff.mp taken
      obtain ⟨result, proceeds, rfl⟩ := Option.map_eq_some_iff.mp rest
      exact moves_proceed found proceeds
  | refill => exact moves_refill taken
  | stop =>
      obtain rfl := Option.some.inj taken
      exact .rests rfl rfl .inl

/-- The balance follows what is emitted: an accepted call takes one token, a refill adds its
tokens, and a call that is turned away leaves the balance alone. -/
theorem Moves.balance {emitted : List SubmitEvent} (moves : Moves before after emitted) :
    after.balance = before.balance + tokenBucketStepSize * emitted.count .refilled -
      emitted.count .accepted := by
  rw [SubmitSystem.balance, SubmitSystem.balance]
  cases moves with
  | rests bucket pending => simp [bucket, pending]
  | turnsAway bucket pending =>
      rw [bucket, pending]
      simp only [List.count_nil]
      omega
  | givesBack bucket pending =>
      rw [bucket, ← pending]
      simp only [List.count_nil]
      omega
  | accepts left bucket pending =>
      rw [bucket, pending]
      simp only [List.count_singleton_self, List.count_singleton]
      simp
      omega
  | refills adding bucket pending =>
      rw [bucket, pending]
      simp
      omega

/-- A token is only accepted when it is there. -/
theorem Moves.covered {emitted : List SubmitEvent} (moves : Moves before after emitted)
    (covered : 0 ≤ before.balance) : 0 ≤ after.balance := by
  rw [SubmitSystem.balance] at covered ⊢
  cases moves with
  | rests bucket pending => rwa [bucket, pending]
  | turnsAway bucket pending => omega
  | givesBack bucket pending => omega
  | accepts left bucket pending => omega
  | refills adding bucket pending =>
      rw [bucket, pending, tokenBucketStepSize]
      omega

/-- The balance is what was there and came in less what was accepted, and never negative. -/
structure Balanced (tokens : Nat) (recorded : SubmitSystem × List SubmitEvent) : Prop where
  balance : recorded.1.balance =
    tokens + tokenBucketStepSize * recorded.2.count .refilled - recorded.2.count .accepted
  covered : 0 ≤ recorded.1.balance

/-- The balance stays below a refill on a bucket that was found not full. -/
structure Bounded (most : Nat) (system : SubmitSystem) : Prop where
  balance : system.balance ≤ tokenBucketMaxSize + tokenBucketStepSize - 1 + most
  adding : system.refill = .add → system.balance ≤ tokenBucketMaxSize - 1 + most

theorem Balanced.step {tokens : Nat} {recorded later : SubmitSystem × List SubmitEvent}
    {action : SubmitAction} (balanced : Balanced tokens recorded)
    (taken : Transition.recording next emit recorded action = some later) :
    Balanced tokens later := by
  obtain ⟨after, moved, rfl⟩ := Transition.recording_eq_some.mp taken
  have moves := moves_next moved
  refine ⟨?_, moves.covered balanced.covered⟩
  have balance := balanced.balance
  dsimp only
  rw [moves.balance, balance, List.count_append, List.count_append, tokenBucketStepSize]
  omega

theorem Bounded.step {most : Nat} {action : SubmitAction} (bounded : Bounded most before)
    (few : before.pending ≤ most) (taken : next before action = some after) :
    Bounded most after := by
  have moves := moves_next taken
  have balance := moves.balance
  have few : (before.pending : Int) ≤ most := by exact_mod_cast few
  obtain ⟨below, adding⟩ := bounded
  generalize before.emit action = emitted at moves balance
  cases moves with
  | rests bucket pending adds =>
      have same : after.balance = before.balance := by simpa using balance
      refine ⟨same ▸ below, fun adds' => ?_⟩
      rw [same]
      rcases adds adds' with earlier | room
      · exact adding earlier
      · rw [SubmitSystem.balance]
        omega
  | turnsAway bucket pending adds =>
      have same : after.balance = before.balance := by simpa using balance
      exact ⟨same ▸ below, fun adds' => same ▸ adding (adds ▸ adds')⟩
  | givesBack bucket pending adds =>
      have same : after.balance = before.balance := by simpa using balance
      exact ⟨same ▸ below, fun adds' => same ▸ adding (adds ▸ adds')⟩
  | accepts left bucket pending adds =>
      have less : after.balance = before.balance - 1 := by simpa using balance
      refine ⟨by omega, fun adds' => ?_⟩
      have := adding (adds ▸ adds')
      omega
  | refills adding' bucket pending adds =>
      have more : after.balance = before.balance + tokenBucketStepSize := by simpa using balance
      have := adding adding'
      exact ⟨by omega, fun adds' => absurd adds' adds⟩

/-- The service when its loop starts. -/
def started (tokens : Nat) : SubmitSystem := { tokenBucket := tokens }

variable {tokens : Nat} {labels : List SubmitAction} {final : SubmitSystem × List SubmitEvent}

theorem balanced_of_run
    (reach : Transition.run (Transition.recording next emit) (started tokens, []) labels =
      some final) : Balanced tokens final := by
  refine Transition.run_stable Balanced.step ?_ reach
  constructor <;> simp [balance, pending, started]

theorem bounded_of_run (small : (tokens : Int) ≤ tokenBucketMaxSize) {most : Nat}
    (few : Transition.Visits (Transition.recording next emit)
      (fun recorded => recorded.1.pending ≤ most) (started tokens, []) labels)
    (reach : Transition.run (Transition.recording next emit) (started tokens, []) labels =
      some final) : Bounded most final.1 := by
  have step : ∀ {recorded later : SubmitSystem × List SubmitEvent} {action : SubmitAction},
      Bounded most recorded.1 → recorded.1.pending ≤ most →
      Transition.recording next emit recorded action = some later → Bounded most later.1 := by
    intro recorded later action bounded few taken
    obtain ⟨after, moved, rfl⟩ := Transition.recording_eq_some.mp taken
    exact bounded.step few moved
  have start : Bounded most (started tokens) := by
    constructor
    · rw [balance, tokenBucketStepSize]
      simp only [started, pending, SortedMap.total_empty]
      omega
    · intro adds
      exact absurd adds (by simp [started])
  exact Transition.run_invariant step start few.along reach

theorem fits_int32 (small : (tokens : Int) ≤ tokenBucketMaxSize) {most : Nat}
    (within : (most : Int) + tokenBucketMaxSize + tokenBucketStepSize ≤ 2 ^ 31)
    (few : Transition.Visits (Transition.recording next emit)
      (fun recorded => recorded.1.pending ≤ most) (started tokens, []) labels)
    (reach : Transition.run (Transition.recording next emit) (started tokens, []) labels =
      some final) :
    -2 ^ 31 ≤ final.1.tokenBucket ∧ final.1.tokenBucket < 2 ^ 31 := by
  have covered := (balanced_of_run reach).covered
  have below := (bounded_of_run small few reach).balance
  have overlap : final.1.pending ≤ most := few.last reach
  rw [balance] at covered below
  rw [tokenBucketMaxSize, tokenBucketStepSize] at *
  omega

/-- A submission that passes the check, with the token it takes and the loop that brought it. -/
def submission : List SubmitAction :=
  [.refill, .refill, .refill,
    .requestDataSubmit 1 { pid := 1, uid := 1000, tokenType := .native,
                           permissions := [reportPermission], isSystemApp := false } 7 "" "" "",
    .proceed 1 .success, .proceed 1 .success]

/-- A submission takes one of the tokens that the loop has added. -/
example :
    (Transition.run (Transition.recording next emit) (started 0, []) submission).map
      (fun final => (final.1.tokenBucket, final.2)) = some (19, [.refilled, .accepted]) := by
  decide +kernel

end SubmitSystem

end SecurityGuard
