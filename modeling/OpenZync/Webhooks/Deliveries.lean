import Mathlib.Data.List.Perm.Basic
import OpenZync.Webhooks.SigningSecrets

/-!
# Deliveries of webhook events

An `emit` accounts for each endpoint that it finds: in the end there is one job for it,
or it has been left out with a log line, or its coroutine has raised.  A job is tried up
to five times by the worker, and each try is to be logged.
-/

namespace OpenZync.Webhooks

open OpenZync.Library

section Emissions

/-- The endpoints of an `emit` that have a job. -/
def Emission.delivered (emission : Emission) : List Uuid :=
  emission.stored ++ emission.unanswered

/-- The other endpoints of an `emit`. -/
def Emission.undelivered (emission : Emission) : List Uuid :=
  emission.begun.map WebhookEndpoint.id ++ emission.lost.map (fun lost => lost.1.id) ++
    emission.skipped ++ emission.declined ++ emission.failed

/-- One more endpoint that has a job, or one of the others. -/
structure Emission.Settled (emission next : Emission) (endpointId : Uuid) (jobs : List Uuid) :
    Prop where
  aborted : next.aborted = emission.aborted
  delivered : next.delivered.Perm (jobs ++ emission.delivered)
  accounts : (jobs ++ next.undelivered).Perm (endpointId :: emission.undelivered)

theorem settled_skip (emission : Emission) (endpointId : Uuid) :
    emission.Settled (emission.skip endpointId) endpointId [] where
  aborted := rfl
  delivered := .refl _
  accounts := (List.perm_middle.append_right _).append_right _

theorem settled_fail (emission : Emission) (endpointId : Uuid) :
    emission.Settled (emission.fail endpointId) endpointId [] where
  aborted := rfl
  delivered := .refl _
  accounts := List.perm_middle

/-- However an `enqueue` ends, the endpoint has the job exactly where it is stored. -/
theorem settled_settle (emission : Emission) (endpointId : Uuid) (enqueue : EnqueueEnding) :
    emission.Settled (emission.settle endpointId enqueue) endpointId
      (if enqueue.stores then [endpointId] else []) := by
  cases enqueue with
  | stored => exact ⟨rfl, .refl _, .refl _⟩
  | declined => exact ⟨rfl, .refl _, List.perm_middle.append_right _⟩
  | refused => exact settled_fail emission endpointId
  | unanswered => exact ⟨rfl, List.perm_middle, .refl _⟩

/-- The coroutine of the endpoint is no longer one of those to come. -/
structure Emission.Leaves (emission rest : Emission) (endpointId : Uuid) : Prop where
  aborted : rest.aborted = emission.aborted
  delivered : rest.delivered = emission.delivered
  accounts : (endpointId :: rest.undelivered).Perm emission.undelivered

theorem leaves_begin {emission : Emission} {endpoint : WebhookEndpoint}
    (member : endpoint ∈ emission.begun) :
    emission.Leaves (emission.begin endpoint) endpoint.id := by
  refine ⟨rfl, rfl, ?_⟩
  have one : (endpoint.id :: (emission.begun.erase endpoint).map WebhookEndpoint.id).Perm
      (emission.begun.map WebhookEndpoint.id) :=
    ((List.perm_cons_erase member).map WebhookEndpoint.id).symm
  unfold Emission.undelivered Emission.begin
  exact (((one.append_right _).append_right _).append_right _).append_right _

theorem undelivered_lose {emission : Emission} {lost : WebhookEndpoint × Text} :
    (lost.1.id :: emission.undelivered).Perm
      { emission with lost := lost :: emission.lost }.undelivered := by
  unfold Emission.undelivered
  exact ((List.perm_middle.symm.append_right _).append_right _).append_right _

theorem leaves_reread {emission : Emission} {lost : WebhookEndpoint × Text}
    (member : lost ∈ emission.lost) :
    emission.Leaves { emission with lost := emission.lost.erase lost } lost.1.id := by
  refine ⟨rfl, rfl, undelivered_lose.trans ?_⟩
  unfold Emission.undelivered
  have one : ((lost :: emission.lost.erase lost).map fun lost => lost.1.id).Perm
      (emission.lost.map fun lost => lost.1.id) :=
    (List.perm_cons_erase member).symm.map _
  exact (((one.append_left _).append_right _).append_right _).append_right _

/-- An `emit` without an error before its coroutines returns true when they have all ended and
none of them has raised. -/
theorem answer_eq_true_iff {emission : Emission} (began : emission.aborted = false) :
    emission.answer = some true ↔ emission.begun = [] ∧ emission.lost = [] ∧
      emission.failed = [] ∧ emission.unanswered = [] := by
  unfold Emission.answer Emission.raised
  rw [began]
  cases emission.failed with
  | cons endpointId failed => simp
  | nil =>
      cases emission.unanswered with
      | cons endpointId unanswered => simp
      | nil => simp

end Emissions

namespace WebhookState

section Accounts

variable {τ ν : Type} [DecidableEq τ]

/-- The endpoints that the call has enqueued deliveries for. -/
def delivered (state : WebhookState τ) (call : τ) : List Uuid :=
  (state.jobs.filter fun entry => entry.1 = call).map fun entry => entry.2.endpointId

/-- What an action of the call does to the calls and to the jobs: an endpoint that leaves the
coroutines has a job, or has been skipped, or has failed. -/
inductive CallStep (call : τ) (state state' : WebhookState τ) : Prop where
  | quiet (phase : state'.phase = state.phase) (jobs : state'.jobs = state.jobs)
  | moved (next : CallPhase) (idle : ∀ emission, state.phase call ≠ .emitting emission)
      (left : next ≠ .waiting) (phase : state'.phase = Function.update state.phase call next)
      (jobs : state'.jobs = state.jobs)
  | ran (emission next : Emission) (new : List DeliverWebhook)
      (running : state.phase call = .emitting emission)
      (phase : state'.phase = Function.update state.phase call (.emitting next))
      (jobs : state'.jobs = new.map (Prod.mk call) ++ state.jobs)
      (aborted : next.aborted = emission.aborted)
      (delivered : next.delivered.Perm (new.map DeliverWebhook.endpointId ++ emission.delivered))
      (accounts : (new.map DeliverWebhook.endpointId ++ next.undelivered).Perm
        emission.undelivered)

variable {ν : Type} {service : WebhookService ν} {calls : τ → WebhookCall ν}
  {state : WebhookState τ}

@[simp] theorem phase_changeRow (state : WebhookState τ) (call : τ) (endpointId : Uuid)
    (change : WebhookEndpoint → Option WebhookEndpoint) :
    (state.changeRow call endpointId change).phase = state.phase := by
  unfold WebhookState.changeRow
  split
  · rfl
  · rfl

@[simp] theorem jobs_changeRow (state : WebhookState τ) (call : τ) (endpointId : Uuid)
    (change : WebhookEndpoint → Option WebhookEndpoint) :
    (state.changeRow call endpointId change).jobs = state.jobs := by
  unfold WebhookState.changeRow
  split
  · rfl
  · rfl

/-- A coroutine that has gone on ends without a job. -/
theorem callStep_ended {state' : WebhookState τ} {call : τ} {emission rest next : Emission}
    {endpointId : Uuid} (running : state.phase call = .emitting emission)
    (phase : state'.phase = Function.update state.phase call (.emitting next))
    (jobs : state'.jobs = state.jobs) (leaves : emission.Leaves rest endpointId)
    (settled : rest.Settled next endpointId []) : CallStep call state state' := by
  apply CallStep.ran emission next [] running phase jobs
  · rw [settled.aborted, leaves.aborted]
  · rw [← leaves.delivered]
    exact settled.delivered
  · exact settled.accounts.trans leaves.accounts

/-- The end of a coroutine. -/
theorem callStep_deliver {middle : WebhookState τ} {call : τ} {emission rest : Emission}
    {endpointId : Uuid} {job : Option DeliverWebhook} {enqueue : EnqueueEnding}
    (phase : middle.phase = state.phase) (jobs : middle.jobs = state.jobs)
    (running : state.phase call = .emitting emission)
    (own : ∀ job' ∈ job, job'.endpointId = endpointId)
    (leaves : emission.Leaves rest endpointId) :
    CallStep call state (middle.deliver call rest endpointId job enqueue) := by
  unfold WebhookState.deliver
  split
  · refine callStep_ended running ?_ jobs leaves (settled_skip rest endpointId)
    rw [← phase]
    rfl
  · rename_i job
    have settled := settled_settle rest endpointId enqueue
    have ids : ((if enqueue.stores then [job] else []).map DeliverWebhook.endpointId) =
        if enqueue.stores then [endpointId] else [] := by
      split
      · rw [List.map_singleton, own job rfl]
      · rfl
    apply CallStep.ran emission (rest.settle endpointId enqueue)
      (if enqueue.stores then [job] else []) running
    · rw [← phase]
      rfl
    · change (if enqueue.stores then (call, job) :: middle.jobs else middle.jobs) = _
      rw [jobs]
      split
      · rfl
      · rfl
    · rw [settled.aborted, leaves.aborted]
    · rw [ids, ← leaves.delivered]
      exact settled.delivered
    · rw [ids]
      exact settled.accounts.trans leaves.accounts

/-- The rest of a management call. -/
theorem callStep_change {call : τ} (idle : ∀ emission, state.phase call ≠ .emitting emission)
    {request : WebhookCall ν} {token : Text} {nonce : Nat} {encrypts : Bool} :
    CallStep call state (state.change service call request token nonce encrypts) := by
  have returned : ∀ middle : WebhookState τ, middle.phase = state.phase →
      middle.jobs = state.jobs → CallStep call state (middle.setPhase call .returned) := by
    intro middle phase jobs
    exact .moved .returned idle (by simp) (by rw [← phase]; rfl) jobs
  cases request with
  | rotateEndpointSecret endpointId organizationId =>
      dsimp only [WebhookState.change]
      split
      · exact returned state rfl rfl
      · split
        · exact .quiet rfl rfl
        · apply returned
          · exact phase_changeRow _ call endpointId _
          · exact jobs_changeRow _ call endpointId _
  | updateEndpoint endpointId organizationId updates =>
      dsimp only [WebhookState.change]
      split
      · exact returned state rfl rfl
      · split
        · split
          · exact .quiet rfl rfl
          · exact returned _ (phase_changeRow _ _ _ _) (jobs_changeRow _ _ _ _)
        · split
          · exact returned state rfl rfl
          · split
            · exact .quiet rfl rfl
            · exact returned _ (phase_changeRow _ _ _ _) (jobs_changeRow _ _ _ _)
  | deleteEndpoint endpointId organizationId =>
      dsimp only [WebhookState.change]
      split
      · exact .quiet rfl rfl
      · exact returned _ (phase_changeRow _ _ _ _) (jobs_changeRow _ _ _ _)
  | createEndpoint organizationId name url events => exact .quiet rfl rfl
  | emit organizationId eventType payload => exact .quiet rfl rfl

theorem callStep_perform (action : WebhookAction τ) :
    ∃ call, CallStep call state (state.perform service calls action) := by
  cases action with
  | create call endpointId token nonce encrypts =>
      refine ⟨call, ?_⟩
      simp only [WebhookState.perform]
      split
      · rename_i waiting
        have idle : ∀ emission, state.phase call ≠ .emitting emission := by
          intro emission running
          rw [waiting] at running
          cases running
        split
        · exact .moved .returned idle (by simp) rfl rfl
        · exact .moved .returned idle (by simp) rfl rfl
      · exact .quiet rfl rfl
  | check call =>
      refine ⟨call, ?_⟩
      simp only [WebhookState.perform]
      split
      · rename_i waiting
        have idle : ∀ emission, state.phase call ≠ .emitting emission := by
          intro emission running
          rw [waiting] at running
          cases running
        split
        · exact .moved .owner idle (by simp) rfl rfl
        · exact .moved .returned idle (by simp) rfl rfl
      · exact .quiet rfl rfl
  | change call token nonce encrypts =>
      refine ⟨call, ?_⟩
      simp only [WebhookState.perform]
      split
      · rename_i owner
        have idle : ∀ emission, state.phase call ≠ .emitting emission := by
          intro emission running
          rw [owner] at running
          cases running
        exact callStep_change idle
      · exact .quiet rfl rfl
  | select call answers ready =>
      refine ⟨call, ?_⟩
      simp only [WebhookState.perform]
      split
      · rename_i waiting
        have idle : ∀ emission, state.phase call ≠ .emitting emission := by
          intro emission running
          rw [waiting] at running
          cases running
        split
        · split
          · exact .moved _ idle (by simp) rfl rfl
          · exact .moved _ idle (by simp) rfl rfl
        · exact .moved _ idle (by simp) rfl rfl
      · exact .quiet rfl rfl
  | sign call endpoint timestamp decrypts enqueue =>
      refine ⟨call, ?_⟩
      simp only [WebhookState.perform]
      split
      · rename_i running
        split
        · rename_i begins
          apply callStep_deliver rfl rfl running
          · intro job enqueued
            obtain ⟨secret, _, rfl⟩ := Option.map_eq_some_iff.mp enqueued
            rfl
          · exact leaves_begin (List.contains_iff_mem.mp begins.1)
        · exact .quiet rfl rfl
      · exact .quiet rfl rfl
  | backfill call endpoint token nonce timestamp encrypts enqueue =>
      refine ⟨call, ?_⟩
      simp only [WebhookState.perform]
      split
      · rename_i emission emits running
        split
        · rename_i begins
          have leaves := leaves_begin (List.contains_iff_mem.mp begins.1)
          split
          · exact callStep_ended running rfl rfl leaves (settled_skip _ endpoint.id)
          · split
            · exact callStep_ended running rfl rfl leaves (settled_fail _ endpoint.id)
            · split
              · exact .quiet rfl rfl
              · split
                · apply callStep_deliver
                  · rw [phase_changeRow]
                    rfl
                  · rw [jobs_changeRow]
                    rfl
                  · exact running
                  · intro job enqueued
                    cases enqueued
                    rfl
                  · exact leaves
                · exact .ran emission _ [] running rfl rfl rfl (.refl _)
                    (undelivered_lose.symm.trans leaves.accounts)
        · exact .quiet rfl rfl
      · exact .quiet rfl rfl
  | reread call endpoint ciphertext fromDatabase timestamp decrypts enqueue =>
      refine ⟨call, ?_⟩
      simp only [WebhookState.perform]
      split
      · rename_i running
        split
        · rename_i waits
          apply callStep_deliver rfl rfl running
          · intro job enqueued
            obtain ⟨secret, _, rfl⟩ := Option.map_eq_some_iff.mp enqueued
            rfl
          · exact leaves_reread (List.contains_iff_mem.mp waits)
        · exact .quiet rfl rfl
      · exact .quiet rfl rfl
  | commit call =>
      refine ⟨call, ?_⟩
      simp only [WebhookState.perform]
      split
      · exact .quiet rfl rfl
      · exact .quiet rfl rfl
  | rollBack call => exact ⟨call, .quiet rfl rfl⟩

/-- The endpoints of an `emit` under way: each has one job, in the queue, or is one of the others;
and the `emit` returns true exactly when no coroutine is left and none has raised. -/
def Accounts (call : τ) (endpoints : List WebhookEndpoint) (state : WebhookState τ) : Prop :=
  ∃ emission, state.phase call = .emitting emission ∧
    (emission.delivered ++ emission.undelivered).Perm (endpoints.map WebhookEndpoint.id) ∧
    (state.delivered call).Perm emission.delivered ∧
    (emission.answer = some true ↔ emission.begun = [] ∧ emission.lost = [] ∧
      emission.failed = [] ∧ emission.unanswered = [])

/-- What every step keeps of the accounts of a call: there was no error before its coroutines. -/
def Accounted (call : τ) (endpoints : List WebhookEndpoint) (state : WebhookState τ) : Prop :=
  ∃ emission, state.phase call = .emitting emission ∧ emission.aborted = false ∧
    (emission.delivered ++ emission.undelivered).Perm (endpoints.map WebhookEndpoint.id) ∧
    (state.delivered call).Perm emission.delivered

theorem Accounted.accounts {call : τ} {endpoints : List WebhookEndpoint}
    (accounted : Accounted call endpoints state) : Accounts call endpoints state := by
  obtain ⟨emission, running, began, each, jobs⟩ := accounted
  exact ⟨emission, running, each, jobs, answer_eq_true_iff began⟩

theorem delivered_new {call : τ} {new : List DeliverWebhook} {state' : WebhookState τ}
    (jobs : state'.jobs = new.map (Prod.mk call) ++ state.jobs) :
    state'.delivered call = new.map DeliverWebhook.endpointId ++ state.delivered call := by
  have own : ((new.map (Prod.mk call)).filter fun entry => entry.1 = call) =
      new.map (Prod.mk call) := by
    apply List.filter_eq_self.mpr
    intro entry member
    obtain ⟨job, _, rfl⟩ := List.mem_map.mp member
    simp
  unfold delivered
  rw [jobs, List.filter_append, List.map_append, own, List.map_map]
  rfl

theorem delivered_other {call other : τ} (apart : other ≠ call) {new : List DeliverWebhook}
    {state' : WebhookState τ} (jobs : state'.jobs = new.map (Prod.mk other) ++ state.jobs) :
    state'.delivered call = state.delivered call := by
  have none : ((new.map (Prod.mk other)).filter fun entry => entry.1 = call) = [] := by
    apply List.filter_eq_nil_iff.mpr
    intro entry member
    obtain ⟨job, _, rfl⟩ := List.mem_map.mp member
    simpa using apart
  unfold delivered
  rw [jobs, List.filter_append, none, List.nil_append]

theorem Accounted.step {call other : τ} {endpoints : List WebhookEndpoint}
    {state' : WebhookState τ} (accounted : Accounted call endpoints state)
    (step : CallStep other state state') : Accounted call endpoints state' := by
  obtain ⟨emission, running, began, each, queued⟩ := accounted
  have same : state'.jobs = state.jobs → state'.delivered call = state.delivered call := by
    intro jobs
    unfold delivered
    rw [jobs]
  cases step with
  | quiet phase jobs =>
      exact ⟨emission, by rw [phase, running], began, each, by rw [same jobs]; exact queued⟩
  | moved next idle left phase jobs =>
      have apart : call ≠ other := by
        rintro rfl
        exact idle emission running
      refine ⟨emission, ?_, began, each, by rw [same jobs]; exact queued⟩
      rw [phase, Function.update_of_ne apart, running]
  | ran emission' next new running' phase jobs aborted delivered accounts =>
      by_cases apart : call = other
      · subst apart
        rw [running] at running'
        cases running'
        refine ⟨next, by rw [phase, Function.update_self], aborted.trans began, ?_, ?_⟩
        · have moved : (next.delivered ++ next.undelivered).Perm
              (emission.delivered ++ (new.map DeliverWebhook.endpointId ++ next.undelivered)) := by
            rw [← List.append_assoc]
            exact (delivered.trans List.perm_append_comm).append_right _
          exact (moved.trans (accounts.append_left _)).trans each
        · rw [delivered_new jobs]
          exact (queued.append_left _).trans delivered.symm
      · refine ⟨emission, ?_, began, each, ?_⟩
        · rw [phase, Function.update_of_ne apart, running]
        · rw [delivered_other (Ne.symm apart) jobs]
          exact queued

/-- A call that waits has no jobs yet. -/
def Unstarted (call : τ) (state : WebhookState τ) : Prop :=
  state.phase call = .waiting → state.delivered call = []

theorem Unstarted.step {call other : τ} {state' : WebhookState τ} (none : Unstarted call state)
    (step : CallStep other state state') : Unstarted call state' := by
  intro waiting
  cases step with
  | quiet phase jobs =>
      rw [phase] at waiting
      unfold delivered
      rw [jobs]
      exact none waiting
  | moved next idle left phase jobs =>
      rw [phase] at waiting
      by_cases same : call = other
      · subst same
        rw [Function.update_self] at waiting
        exact absurd waiting left
      · rw [Function.update_of_ne same] at waiting
        unfold delivered
        rw [jobs]
        exact none waiting
  | ran emission next new running phase jobs aborted delivered accounts =>
      rw [phase] at waiting
      by_cases same : call = other
      · subst same
        rw [Function.update_self] at waiting
        cases waiting
      · rw [Function.update_of_ne same] at waiting
        rw [delivered_other (Ne.symm same) jobs]
        exact none waiting

theorem unstarted_run (rows : List WebhookEndpoint) (actions : List (WebhookAction τ)) (call : τ) :
    Unstarted call (run service calls rows actions) :=
  List.foldlRecOn (motive := Unstarted call) actions (perform service calls) (fun _ => rfl)
    fun _ none action _ => by
      obtain ⟨other, step⟩ := callStep_perform action
      exact none.step step

end Accounts

/-- Each endpoint that an `emit` finds is accounted for once, whatever the other calls do and
however its coroutines end: it has one job, its coroutine is still to come, it has been left out,
or its coroutine has raised. -/
theorem emit_accounts {τ ν : Type} [DecidableEq τ] (service : WebhookService ν)
    (calls : τ → WebhookCall ν) (rows : List WebhookEndpoint)
    (before after : List (WebhookAction τ))
    (call : τ) {organizationId : Uuid} {eventType : Text} {payload : Option (Json ν)}
    (emits : calls call = .emit organizationId eventType payload)
    (waiting : (run service calls rows before).phase call = .waiting)
    {endpoints : List WebhookEndpoint}
    (found : service.activeEndpointsFor organizationId eventType
      ((run service calls rows before).rows call) = .ok endpoints) :
    (∀ endpoint, endpoint ∈ endpoints ↔ endpoint ∈ (run service calls rows before).rows call ∧
      endpoint.organizationId = organizationId ∧ endpoint.isActive = true ∧
      service.endpointSubscribesTo endpoint eventType = .ok true) ∧
    Accounts call endpoints
      (run service calls rows (before ++ .select call true true :: after)) := by
  refine ⟨mem_activeEndpointsFor found, ?_⟩
  have selected : (run service calls rows before).perform service calls (.select call true true) =
      (run service calls rows before).setPhase call (.emitting (.ofEndpoints endpoints)) := by
    simp only [perform, emits, waiting, found, true_or, and_self, if_true]
  have initial : Accounted call endpoints
      ((run service calls rows before).perform service calls (.select call true true)) := by
    rw [selected]
    refine ⟨.ofEndpoints endpoints, Function.update_self _ _ _, rfl, ?_, ?_⟩
    · simp [Emission.delivered, Emission.undelivered, Emission.ofEndpoints]
    · change ((run service calls rows before).delivered call).Perm _
      rw [unstarted_run rows before call waiting]
      exact .refl _
  apply Accounted.accounts
  rw [run, List.foldl_append, List.foldl_cons]
  exact List.foldlRecOn (motive := Accounted call endpoints) after (perform service calls) initial
    fun _ accounted action _ => by
      obtain ⟨other, step⟩ := callStep_perform action
      exact accounted.step step

/-- The job is in the queue, and the answer to the `enqueue` is lost. -/
theorem emit_accounts_unanswered :
    Accounts true [legacyRow]
      (run plainService twoOrganizations [legacyRow] ([.create false 8 "key b".toList 0 true] ++
        .select true true true ::
          [.backfill true legacyRow "key a".toList 1 5 true .unanswered])) :=
  (emit_accounts plainService twoOrganizations [legacyRow]
    [.create false 8 "key b".toList 0 true]
    [.backfill true legacyRow "key a".toList 1 5 true .unanswered] true rfl (by decide +kernel)
    (by rfl)).2

end WebhookState

section Tries

/-- `MAX_ATTEMPTS`, which is `max_tries` of the job as well. -/
def maxAttempts : Nat := 5

/-- How the request of a try ends.  A try that is cancelled while it waits for the answer logs
what it logs after any other error. -/
inductive TryEnding where
  | answered (statusCode : Nat) (text : Text)
  | timeout (message : Text)
  | networkError (message : Text)
  | otherError
deriving DecidableEq

/-- The endings after which another try may help. -/
def TryEnding.Undecided : TryEnding → Prop
  | .answered statusCode _ => 500 ≤ statusCode
  | .timeout _ => True
  | .networkError _ => True
  | .otherError => False

def TryEnding.Succeeded : TryEnding → Prop
  | .answered statusCode _ => 200 ≤ statusCode ∧ statusCode < 300
  | _ => False

/-- A try of `deliver_webhook`. -/
structure Try where
  ending : TryEnding
  /-- `_log_delivery` has committed its row. -/
  persisted : Bool
  /-- There was an error outside the handler of `_log_delivery`, or the job ran out of its time. -/
  raises : Bool
  /-- The worker was stopped or lost before ARQ finished the job. -/
  lost : Bool
deriving DecidableEq

/-- ARQ runs the job again. -/
def Try.Again (outcome : Try) : Prop :=
  outcome.lost = true ∨ outcome.ending.Undecided ∧ outcome.raises = false

structure WebhookDeliveryLog where
  endpointId : Uuid
  eventType : Text
  attempt : Nat
  statusCode : Option Nat
  success : Bool
  error : Option Text
deriving DecidableEq

/-- What ARQ gets from a try: `retry` is its exception `Retry`, which runs the job again; so it
does where the try is lost. -/
inductive TryResult where
  | finished
  | failed
  | retry (defer : Nat)
  | lost
deriving DecidableEq

/-- `raise Retry(defer=2 ** (attempt - 1))` before the last attempt. -/
def retryOrFinish (attempt : Nat) : TryResult :=
  if attempt < maxAttempts then .retry (2 ^ (attempt - 1)) else .finished

/-- The result of `deliver_webhook` after its request, and what `_log_delivery` gets. -/
def deliverWebhook (job : DeliverWebhook) (attempt : Nat) (ending : TryEnding) :
    TryResult × WebhookDeliveryLog :=
  let log := WebhookDeliveryLog.mk job.endpointId job.eventType attempt
  match ending with
  | .answered statusCode text =>
      if 200 ≤ statusCode ∧ statusCode < 300 then (.finished, log (some statusCode) true none)
      else
        let status := "HTTP ".toList ++ Nat.toDigits 10 statusCode
        if 400 ≤ statusCode ∧ statusCode < 500 then
          (.finished, log (some statusCode) false (some (status ++ ": ".toList ++ text.take 200)))
        else if 500 ≤ statusCode ∧ attempt < maxAttempts then
          (.retry (2 ^ (attempt - 1)), log (some statusCode) false (some status))
        else (.finished, log (some statusCode) false (some (status ++ " (final)".toList)))
  | .timeout message =>
      (retryOrFinish attempt, log none false (some ("Timeout: ".toList ++ message)))
  | .networkError message =>
      (retryOrFinish attempt, log none false (some ("Network error: ".toList ++ message)))
  | .otherError => (.failed, log none false none)

/-- The log is written in `finally`, so an error in it is the one that ARQ gets. -/
def Try.result (outcome : Try) (job : DeliverWebhook) (attempt : Nat) : TryResult :=
  if outcome.lost then .lost
  else if outcome.raises then .failed
  else (deliverWebhook job attempt outcome.ending).1

def Try.log (outcome : Try) (job : DeliverWebhook) (attempt : Nat) : Option WebhookDeliveryLog :=
  if outcome.persisted then some (deliverWebhook job attempt outcome.ending).2 else none

/-- The tries of the job, of which so many remain. -/
def triesFrom (job : DeliverWebhook) (outcomes : Nat → Try) : Nat → Nat → List Nat
  | 0, _ => []
  | remaining + 1, attempt =>
      attempt :: match (outcomes attempt).result job attempt with
        | .finished => []
        | .failed => []
        | .retry _ => triesFrom job outcomes remaining (attempt + 1)
        | .lost => triesFrom job outcomes remaining (attempt + 1)

def tries (job : DeliverWebhook) (outcomes : Nat → Try) : List Nat :=
  triesFrom job outcomes maxAttempts 1

/-- The rows of `webhook_delivery_logs` that the tries leave. -/
def tryLogs (job : DeliverWebhook) (outcomes : Nat → Try) : List WebhookDeliveryLog :=
  (tries job outcomes).filterMap fun attempt => (outcomes attempt).log job attempt

theorem decided_iff (job : DeliverWebhook) {attempt : Nat} (early : attempt < maxAttempts)
    (ending : TryEnding) :
    ((deliverWebhook job attempt ending).1 = .finished ∨
        (deliverWebhook job attempt ending).1 = .failed) ↔ ¬ ending.Undecided := by
  cases ending with
  | answered statusCode text =>
      unfold deliverWebhook TryEnding.Undecided
      dsimp only
      split
      · rename_i succeeded
        simp only [true_or, true_iff]
        omega
      · split
        · rename_i rejected
          simp only [true_or, true_iff]
          omega
        · split
          · rename_i broken
            simp [broken.1]
          · rename_i final
            simp only [true_or, true_iff]
            omega
  | timeout message => simp [deliverWebhook, retryOrFinish, early, TryEnding.Undecided]
  | networkError message => simp [deliverWebhook, retryOrFinish, early, TryEnding.Undecided]
  | otherError => simp [deliverWebhook, TryEnding.Undecided]

theorem done_iff (job : DeliverWebhook) {attempt : Nat} (early : attempt < maxAttempts)
    (outcome : Try) :
    (outcome.result job attempt = .finished ∨ outcome.result job attempt = .failed) ↔
      ¬ outcome.Again := by
  unfold Try.result Try.Again
  cases outcome.lost with
  | true => simp
  | false =>
      cases outcome.raises with
      | true => simp
      | false => simpa using decided_iff job early outcome.ending

@[simp] theorem attempt_deliverWebhook (job : DeliverWebhook) (attempt : Nat)
    (ending : TryEnding) : (deliverWebhook job attempt ending).2.attempt = attempt := by
  unfold deliverWebhook
  cases ending with
  | answered statusCode text =>
      dsimp only
      split
      · rfl
      · split
        · rfl
        · split
          · rfl
          · rfl
  | timeout message => rfl
  | networkError message => rfl
  | otherError => rfl

theorem success_iff (job : DeliverWebhook) (attempt : Nat) (ending : TryEnding) :
    (deliverWebhook job attempt ending).2.success = true ↔ ending.Succeeded := by
  cases ending with
  | answered statusCode text =>
      unfold deliverWebhook TryEnding.Succeeded
      dsimp only
      split
      · rename_i succeeded
        simp [succeeded]
      · rename_i other
        split
        · simp [other]
        · split
          · simp [other]
          · simp [other]
  | timeout message => simp [deliverWebhook, TryEnding.Succeeded]
  | networkError message => simp [deliverWebhook, TryEnding.Succeeded]
  | otherError => simp [deliverWebhook, TryEnding.Succeeded]

theorem triesFrom_spec (remaining attempt : Nat) (fits : attempt + remaining = maxAttempts)
    (job : DeliverWebhook) (outcomes : Nat → Try) :
    ∃ more ≤ remaining,
      triesFrom job outcomes (remaining + 1) attempt = List.range' attempt (more + 1) ∧
      (∀ earlier, attempt ≤ earlier → earlier < attempt + more → (outcomes earlier).Again) ∧
      (more < remaining → ¬ (outcomes (attempt + more)).Again) := by
  induction remaining generalizing attempt with
  | zero =>
      refine ⟨0, Nat.le_refl 0, ?_, ?_, ?_⟩
      · rw [triesFrom]
        split
        · rfl
        · rfl
        · rfl
        · rfl
      · intro earlier above below
        omega
      · intro less
        exact absurd less (Nat.lt_irrefl 0)
  | succ remaining induction =>
      have early : attempt < maxAttempts := by omega
      by_cases again : (outcomes attempt).Again
      · obtain ⟨more, within, same, before, done⟩ := induction (attempt + 1) (by omega)
        refine ⟨more + 1, Nat.succ_le_succ within, ?_, ?_, ?_⟩
        · have going := (not_congr (done_iff job early (outcomes attempt))).mpr
            (not_not_intro again)
          rw [triesFrom, List.range'_succ]
          split
          · rename_i finished
            exact absurd (.inl finished) going
          · rename_i failed
            exact absurd (.inr failed) going
          · rw [same]
          · rw [same]
        · intro earlier above below
          rcases Nat.eq_or_lt_of_le above with rfl | later
          · exact again
          · exact before earlier later (by omega)
        · intro less
          rw [show attempt + (more + 1) = attempt + 1 + more by omega]
          exact done (by omega)
      · refine ⟨0, Nat.zero_le _, ?_, ?_, ?_⟩
        · rw [triesFrom]
          split
          · rfl
          · rfl
          · rename_i defer result
            rcases (done_iff job early (outcomes attempt)).mpr again with finished | failed
            · rw [result] at finished
              cases finished
            · rw [result] at failed
              cases failed
          · rename_i result
            rcases (done_iff job early (outcomes attempt)).mpr again with finished | failed
            · rw [result] at finished
              cases finished
            · rw [result] at failed
              cases failed
        · intro earlier above below
          omega
        · intro _
          exact again

theorem TryEnding.Succeeded.decided {ending : TryEnding} (succeeded : ending.Succeeded) :
    ¬ ending.Undecided := by
  cases ending with
  | answered statusCode text =>
      intro broken
      exact absurd (Nat.lt_of_lt_of_le succeeded.2 (by decide : 300 ≤ 500)) (Nat.not_lt.mpr broken)
  | timeout message => exact succeeded.elim
  | networkError message => exact succeeded.elim
  | otherError => exact succeeded.elim

/-- The logged attempts are the tries whose rows have been committed. -/
theorem attempts_tryLogs (job : DeliverWebhook) (outcomes : Nat → Try) :
    (tryLogs job outcomes).map WebhookDeliveryLog.attempt =
      (tries job outcomes).filter fun attempt => (outcomes attempt).persisted := by
  unfold tryLogs
  induction tries job outcomes with
  | nil => rfl
  | cons attempt attempts induction =>
      rw [List.filterMap_cons, List.filter_cons]
      unfold Try.log at induction ⊢
      cases (outcomes attempt).persisted with
      | true => simpa using induction
      | false => simpa using induction

end Tries

/-- A job is tried with the numbers from one on, five times at most: after a server error, a
timeout, a network error or the loss of its worker again, after anything else no more.  Each try
whose row is committed is logged under its number, as a success exactly if it was answered with
one; a success before the last try is that of a lost worker. -/
theorem tried_until_decided (job : DeliverWebhook) (outcomes : Nat → Try) :
    ∃ last, 1 ≤ last ∧ last ≤ maxAttempts ∧ tries job outcomes = List.range' 1 last ∧
      (∀ attempt, 1 ≤ attempt → attempt < last → (outcomes attempt).Again) ∧
      (last < maxAttempts → ¬ (outcomes last).Again) ∧
      (tryLogs job outcomes).map WebhookDeliveryLog.attempt =
        (List.range' 1 last).filter (fun attempt => (outcomes attempt).persisted) ∧
      ∀ log ∈ tryLogs job outcomes,
        (log.success = true ↔ (outcomes log.attempt).ending.Succeeded) ∧
        (log.success = true → log.attempt < last → (outcomes log.attempt).lost = true) := by
  obtain ⟨more, within, same, before, done⟩ := triesFrom_spec 4 1 rfl job outcomes
  have all : tries job outcomes = List.range' 1 (more + 1) := same
  have again : ∀ attempt, 1 ≤ attempt → attempt < more + 1 → (outcomes attempt).Again := by
    intro attempt above below
    exact before attempt above (by omega)
  refine ⟨more + 1, Nat.le_add_left 1 more, Nat.succ_le_succ within, all, again, ?_, ?_, ?_⟩
  · intro less
    rw [Nat.add_comm more 1]
    exact done (Nat.lt_of_succ_lt_succ less)
  · rw [attempts_tryLogs, all]
  · intro log member
    obtain ⟨attempt, tried, logged⟩ := List.mem_filterMap.mp member
    rw [all, List.mem_range'_1] at tried
    unfold Try.log at logged
    split at logged
    · cases logged
      rw [attempt_deliverWebhook]
      refine ⟨success_iff job attempt _, ?_⟩
      intro success earlier
      have succeeded := (success_iff job attempt _).mp success
      rcases again attempt tried.1 earlier with lost | ⟨undecided, _⟩
      · exact lost
      · exact absurd undecided succeeded.decided
    · cases logged

end OpenZync.Webhooks
