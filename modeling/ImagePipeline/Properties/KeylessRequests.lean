/-
Requests without a usable idempotency key. The endpoint takes a missing and an
empty header for the same, the insert stores the header as it came, and UNIQUE
exempts only NULL, so of the requests with an empty header only the first one
gets its row.
-/

import ImagePipeline.Api.PipelineGrammar
import ImagePipeline.Cluster.Ownership

namespace ImagePipeline.Properties.KeylessRequests

open Common Cluster
open Api.CreateJob (Request Phase Routed Submission Outcome serve)
open Library (Machine FifoLog)

/-- What a request comes upon: its start, or a call that finds its target queue
with a length and ends in some way. -/
inductive Meeting where
  | start
  | call (length : Nat) (reply : Reply)

/-- Stores in which nothing was ever created, with queues of the given length. -/
def untouched (length : Nat) : Stores :=
  { Stores.empty with queues := fun _ => (fun queue => queue.push firstJob)^[length] .empty }

theorem untouched_length (length : Nat) (name : QueueName) :
    ((untouched length).queues name).items.length = length := by
  unfold untouched
  induction length with
  | zero => rfl
  | succ length ih =>
      rw [Function.iterate_succ_apply', FifoLog.push_items, List.length_cons, ih]

section Definitions

variable {R P W Image : Type} (site : Deployment R P W Image) (request : R)

/-- The next phase of a request in a system that no request has used before. -/
def alone (phase : Phase site.runtime (site.request request)) :
    Meeting → Phase site.runtime (site.request request)
  | .start => .start site.runtime (site.request request)
  | .call length reply =>
      match serve site.maxQueueLength (site.jobId request) (untouched length) phase 0 reply with
      | some (_, next) => next
      | none => phase

def targetLength (state : State site) : Nat :=
  match (site.request request).target? site.runtime with
  | some name => (state.queue name).items.length
  | none => 0

/-- The INSERT of a request with an empty header, where a row has the empty key. -/
def Blocked (state : State site) (reply : Reply) : Prop :=
  ∃ routed, state.requests request = .insertRow routed ∧
    (site.request request).idempotencyKey = some [] ∧ reply = .answered ∧
    storable (pipelineToJson routed.pipeline) = true ∧
    ∃ row ∈ state.stores.jobs.rows, row.idempotencyKey = some []

variable [DecidableEq R] [DecidableEq P] [DecidableEq W]

def meetings (state : State site) : Event R W → List Meeting
  | .start mover => if mover = request then [.start] else []
  | .request mover _ reply =>
      if mover = request then [.call (targetLength site request state) reply] else []
  | _ => []

/-- What the request comes upon in a run. -/
def journey : State site → List (Event R W) → List Meeting
  | _, [] => []
  | state, event :: rest =>
      match state.step event with
      | some next => meetings site request state event ++ journey next rest
      | none => []

/-- The request is where it would be in an unused system with the same lengths
and replies, and it did not fail with `UniqueViolation`. -/
structure Undisturbed (events : List (Event R W)) (state : State site) : Prop where
  asAlone : state.requests request =
    (journey site request (.initial site) events).foldl (alone site request) .waiting
  noViolation : state.requests request ≠ .ended (.raised .uniqueViolation)

end Definitions

section Calls

variable {runtime : Runtime} {request : Request}

theorem keyless_cases (keyless : request.usableKey = none) :
    request.idempotencyKey = none ∨ request.idempotencyKey = some [] := by
  cases header : request.idempotencyKey with
  | none => exact .inl rfl
  | some key =>
      cases key with
      | nil => exact .inr rfl
      | cons first rest => simp [Request.usableKey, header] at keyless

theorem insertCall_answer (table : JobsTable) (created : Except Exn JobsTable) (reply : Reply) :
    (table.insertCall created reply).2 =
      match reply with
      | .answered => created.map (fun _ => ())
      | .raised fault _ => .error fault.exn := by
  cases created <;> cases reply <;> rfl

theorem createJob_of_fresh {table : JobsTable} {jobId : JobId} {pipeline : List PipelineStep}
    {inputKey outputKey : Str} {key hash : Option Str} {now : Timestamp}
    (fresh : ∀ row ∈ table.rows, row.jobId ≠ jobId)
    (free : storable (pipelineToJson pipeline) = true → key ≠ none →
      ∀ row ∈ table.rows, row.idempotencyKey ≠ key) :
    (table.createJob jobId pipeline inputKey outputKey key hash now).map (fun _ => ()) =
      if storable (pipelineToJson pipeline) then .ok () else .error .dataError := by
  unfold JobsTable.createJob
  split
  · rename_i stores
    have inserted : ∀ old ∈ table.rows, ¬ old.Clash
        ⟨jobId, key, hash, pipelineToJson pipeline, inputKey, outputKey, .pending, now⟩ := by
      rintro old member (sameId | ⟨sameKey, keyed⟩)
      · exact fresh old member sameId
      · exact free stores keyed old member sameKey
    rw [JobsTable.insert, dif_pos inserted]
    rfl
  · rfl

/-- What the INSERT of a request comes back with. -/
def insertAnswer (jobId : JobId) (table : JobsTable) (routed : Routed runtime request)
    (now : Timestamp) (reply : Reply) : Except Exn Unit :=
  (table.insertCall (table.createJob jobId routed.pipeline (originalKey jobId request.filename)
    (resultKey jobId) request.idempotencyKey routed.requestHash now) reply).2

def freshAnswer (routed : Routed runtime request) : Reply → Except Exn Unit
  | .answered => if storable (pipelineToJson routed.pipeline) then .ok () else .error .dataError
  | .raised fault _ => .error fault.exn

theorem insertAnswer_of_fresh {jobId : JobId} {table : JobsTable}
    {routed : Routed runtime request} {now : Timestamp} {reply : Reply}
    (fresh : ∀ row ∈ table.rows, row.jobId ≠ jobId)
    (free : reply = .answered → storable (pipelineToJson routed.pipeline) = true →
      request.idempotencyKey ≠ none →
        ∀ row ∈ table.rows, row.idempotencyKey ≠ request.idempotencyKey) :
    insertAnswer jobId table routed now reply = freshAnswer routed reply := by
  rw [insertAnswer, insertCall_answer]
  cases reply with
  | raised fault applied => rfl
  | answered => exact createJob_of_fresh fresh (free rfl)

theorem insertAnswer_untouched (jobId : JobId) (length : Nat) (routed : Routed runtime request)
    (reply : Reply) :
    insertAnswer jobId (untouched length).jobs routed 0 reply = freshAnswer routed reply := by
  apply insertAnswer_of_fresh
  · intro row member
    cases member
  · intro _ _ _ row member
    cases member

/-- A call of a keyless request ends as it would in untouched stores, unless it
is an INSERT that clashes. -/
theorem serve_untouched (keyless : request.usableKey = none) {maxQueueLength : Nat} (length : Nat)
    {jobId : JobId} {stores after : Stores} {now : Timestamp} {reply : Reply}
    {phase next : Phase runtime request}
    (served : serve maxQueueLength jobId stores phase now reply = some (after, next))
    (lengths : ∀ routed : Routed runtime request, phase = .checkLength routed →
      (stores.queues routed.target).items.length = length)
    (fresh : phase.beforeInsert = true → ∀ row ∈ stores.jobs.rows, row.jobId ≠ jobId)
    (free : ∀ routed : Routed runtime request, phase = .insertRow routed → reply = .answered →
      storable (pipelineToJson routed.pipeline) = true → request.idempotencyKey ≠ none →
        ∀ row ∈ stores.jobs.rows, row.idempotencyKey ≠ request.idempotencyKey) :
    ∃ other, serve maxQueueLength jobId (untouched length) phase 0 reply = some (other, next) := by
  cases phase with
  | waiting => cases served
  | ended outcome => cases served
  | lookup submission key usable =>
      rw [keyless] at usable
      cases usable
  | lookupAgain routed key usable =>
      rw [keyless] at usable
      cases usable
  | checkLength routed =>
      cases served
      have same : queueLength ((untouched length).queues routed.target) reply =
          queueLength (stores.queues routed.target) reply := by
        rw [queueLength, queueLength, untouched_length, lengths routed rfl]
      exact ⟨_, by rw [serve, same]⟩
  | uploadImage routed =>
      cases served
      exact ⟨_, rfl⟩
  | push routed =>
      cases served
      exact ⟨_, rfl⟩
  | markFailed routed =>
      cases served
      exact ⟨_, rfl⟩
  | insertRow routed =>
      cases served
      have same : insertAnswer jobId (untouched length).jobs routed 0 reply =
          insertAnswer jobId stores.jobs routed now reply := by
        rw [insertAnswer_untouched, insertAnswer_of_fresh (fresh rfl) (free routed rfl)]
      exact ⟨_, congrArg some (Prod.ext rfl (congrArg (Phase.afterInsert routed) same))⟩

theorem afterInsert_violation {routed : Routed runtime request} {answer : Except Exn Unit}
    (accepted : answer ≠ .error .uniqueViolation) :
    Phase.afterInsert routed answer ≠ .ended (.raised .uniqueViolation) := by
  intro violated
  unfold Phase.afterInsert at violated
  split at violated
  · cases violated
  · exact accepted rfl
  · cases violated
    exact accepted rfl

theorem fault_ne_violation (fault : Fault) : fault.exn ≠ .uniqueViolation := by
  cases fault <;> intro same <;> cases same

theorem freshAnswer_ne_violation (routed : Routed runtime request) (reply : Reply) :
    freshAnswer routed reply ≠ .error .uniqueViolation := by
  cases reply with
  | raised fault applied => exact fun same => fault_ne_violation fault (Except.error.inj same)
  | answered =>
      rw [freshAnswer]
      by_cases stores : storable (pipelineToJson routed.pipeline) = true
      · rw [if_pos stores]
        simp
      · rw [if_neg stores]
        simp

theorem route_violation (submission : Submission runtime request) :
    Phase.route submission ≠ .ended (.raised .uniqueViolation) := by
  intro violated
  unfold Phase.route at violated
  split at violated
  · rename_i raised classified
    rw [Api.isHeavyPipeline_error classified] at violated
    cases violated
  · cases violated

theorem start_violation :
    Phase.start runtime request ≠ .ended (.raised .uniqueViolation) := by
  intro violated
  unfold Phase.start at violated
  split at violated
  · rename_i raised failed
    rcases Api.parsePipeline_error_cases failed with rfl | ⟨detail, rfl⟩ <;> cases violated
  · split at violated
    · cases violated
    · exact route_violation _ violated

theorem serve_untouched_violation (keyless : request.usableKey = none)
    {maxQueueLength length : Nat} {jobId : JobId} {other : Stores} {reply : Reply}
    {phase next : Phase runtime request}
    (served : serve maxQueueLength jobId (untouched length) phase 0 reply = some (other, next)) :
    next ≠ .ended (.raised .uniqueViolation) := by
  have faulty (fault : Fault) :
      (.ended (.raised fault.exn) : Phase runtime request) ≠ .ended (.raised .uniqueViolation) := by
    intro same
    exact fault_ne_violation fault (Outcome.raised.inj (Phase.ended.inj same))
  cases phase with
  | waiting => cases served
  | ended outcome => cases served
  | lookup submission key usable =>
      rw [keyless] at usable
      cases usable
  | lookupAgain routed key usable =>
      rw [keyless] at usable
      cases usable
  | checkLength routed =>
      cases served
      cases reply with
      | raised fault applied => exact faulty fault
      | answered =>
          simp only [queueLength, Reply.read, Phase.afterLength]
          split <;> intro same <;> cases same
  | uploadImage routed =>
      cases served
      cases reply with
      | raised fault applied => exact faulty fault
      | answered =>
          intro same
          cases same
  | push routed =>
      cases served
      cases reply with
      | answered =>
          intro same
          cases same
      | raised fault applied => cases fault <;> intro same <;> cases same
  | markFailed routed =>
      cases served
      cases reply with
      | raised fault applied => exact faulty fault
      | answered =>
          intro same
          cases same
  | insertRow routed =>
      cases served
      have answer := insertAnswer_untouched jobId length routed reply
      apply afterInsert_violation
      change insertAnswer jobId (untouched length).jobs routed 0 reply ≠ _
      rw [answer]
      exact freshAnswer_ne_violation routed reply

end Calls

section Runs

variable {R P W Image : Type} {site : Deployment R P W Image} {request : R}

theorem targetLength_eq (state : State site)
    (routed : Routed site.runtime (site.request request)) :
    (state.stores.queues routed.target).items.length = targetLength site request state := by
  rw [targetLength, routed.target?_eq]
  rfl

theorem fresh_of_beforeInsert {state : State site} (owned : state.Ownership)
    (before : (state.requests request).beforeInsert = true) :
    ∀ row ∈ state.stores.jobs.rows, row.jobId ≠ site.jobId request := by
  intro row member same
  obtain ⟨owner, routed, now, entry, inserted⟩ :=
    owned.rowsOwned row.submission (JobsTable.submission_mem member)
  have sameId : site.jobId owner = site.jobId request :=
    (congrArg JobRow.jobId entry).symm.trans same
  obtain rfl := site.fresh sameId
  rw [before] at inserted
  cases inserted

variable [DecidableEq R] [DecidableEq P] [DecidableEq W]

/-- One call of the request: it ends as it would alone. -/
theorem call_alone (keyless : (site.request request).usableKey = none)
    {before after : State site} {now : Timestamp} {reply : Reply} (owned : before.Ownership)
    (stepped : before.step (.request request now reply) = some after)
    (unblocked : ¬ Blocked site request before reply) :
    after.requests request = alone site request (before.requests request)
      (.call (targetLength site request before) reply) ∧
    after.requests request ≠ .ended (.raised .uniqueViolation) := by
  obtain ⟨⟨stores, next⟩, served, rfl⟩ := Option.map_eq_some_iff.mp stepped
  have free (routed : Routed site.runtime (site.request request))
      (inserting : before.requests request = .insertRow routed) (answered : reply = .answered)
      (stores : storable (pipelineToJson routed.pipeline) = true)
      (keyed : (site.request request).idempotencyKey ≠ none) :
      ∀ row ∈ before.stores.jobs.rows,
        row.idempotencyKey ≠ (site.request request).idempotencyKey := by
    intro row member same
    have empty := (keyless_cases keyless).resolve_left keyed
    exact unblocked ⟨routed, inserting, empty, answered, stores, row, member, same.trans empty⟩
  obtain ⟨other, servedAlone⟩ := serve_untouched keyless (targetLength site request before) served
    (fun routed _ => targetLength_eq before routed) (fresh_of_beforeInsert owned) free
  rw [State.afterRequest_same, alone, servedAlone]
  exact ⟨rfl, serve_untouched_violation keyless servedAlone⟩

/-- One step of a run: the request does what it would do alone. -/
theorem step_alone (keyless : (site.request request).usableKey = none)
    {before after : State site} {event : Event R W} (owned : before.Ownership)
    (stepped : before.step event = some after)
    (unblocked : ∀ now reply, event = .request request now reply →
      ¬ Blocked site request before reply) :
    after.requests request =
      (meetings site request before event).foldl (alone site request) (before.requests request) ∧
    (before.requests request ≠ .ended (.raised .uniqueViolation) →
      after.requests request ≠ .ended (.raised .uniqueViolation)) := by
  have unmoved (none : meetings site request before event = [])
      (same : after.requests request = before.requests request) :
      after.requests request = (meetings site request before event).foldl (alone site request)
        (before.requests request) ∧
      (before.requests request ≠ .ended (.raised .uniqueViolation) →
        after.requests request ≠ .ended (.raised .uniqueViolation)) := by
    rw [none, same]
    exact ⟨rfl, id⟩
  cases event with
  | start mover =>
      by_cases own : mover = request
      · subst own
        cases State.step_cases stepped with
        | started waiting free =>
            rw [State.afterStart_same, meetings, if_pos rfl]
            exact ⟨rfl, fun _ => start_violation⟩
      · cases State.step_cases stepped with
        | started waiting free =>
            exact unmoved (if_neg own) (before.afterStart_other mover request (Ne.symm own))
  | request mover now reply =>
      by_cases own : mover = request
      · subst own
        obtain ⟨same, noViolation⟩ := call_alone keyless owned stepped (unblocked now reply rfl)
        rw [meetings, if_pos rfl]
        exact ⟨same, fun _ => noViolation⟩
      · obtain ⟨⟨stores, next⟩, served, rfl⟩ := Option.map_eq_some_iff.mp stepped
        exact unmoved (if_neg own)
          (before.afterRequest_other mover request reply stores next (Ne.symm own))
  | worker worker reply =>
      cases State.step_cases stepped with
      | worked served => exact unmoved rfl rfl
  | stop worker =>
      cases State.step_cases stepped with
      | stopped alive => exact unmoved rfl rfl
  | restart worker =>
      cases State.step_cases stepped with
      | restarted dead => exact unmoved rfl rfl

theorem run_alone (keyless : (site.request request).usableKey = none)
    {start finish : State site} {events : List (Event R W)}
    (reachable : (machine site).Reachable anything start)
    (ran : (machine site).run anything start events = some finish)
    (unblocked : ∀ state now reply, (machine site).Takes anything start events state
      (.request request now reply) → ¬ Blocked site request state reply) :
    finish.requests request =
      (journey site request start events).foldl (alone site request) (start.requests request) ∧
    (start.requests request ≠ .ended (.raised .uniqueViolation) →
      finish.requests request ≠ .ended (.raised .uniqueViolation)) := by
  induction events generalizing start with
  | nil =>
      obtain rfl : start = finish := Option.some.inj ran
      exact ⟨rfl, id⟩
  | cons event rest ih =>
      obtain ⟨permitted, next, stepped, later⟩ := Machine.run_cons.mp ran
      have first := step_alone keyless (State.reachable_ownership reachable) stepped
        (fun now reply same => unblocked start now reply (same ▸ .head start event rest))
      have others := ih (reachable.reaches (.single permitted stepped)) later
        (fun state now reply takes => unblocked state now reply (takes.cons permitted stepped))
      have taken : start.step event = some next := stepped
      rw [journey, taken, List.foldl_append, ← first.1]
      exact ⟨others.1, fun clean => others.2 (first.2 clean)⟩

/-- A blocked INSERT is answered with the violation, and nobody catches it. -/
theorem blocked_ends (keyless : (site.request request).usableKey = none)
    {before after : State site} {now : Timestamp} {reply : Reply}
    (blocked : Blocked site request before reply)
    (stepped : before.step (.request request now reply) = some after) :
    after.requests request = .ended (.raised .uniqueViolation) := by
  obtain ⟨routed, inserting, header, rfl, stores, row, member, empty⟩ := blocked
  have clash : before.stores.jobs.createJob (site.jobId request) routed.pipeline
      (originalKey (site.jobId request) (site.request request).filename)
      (resultKey (site.jobId request)) (site.request request).idempotencyKey routed.requestHash
      now = .error .uniqueViolation := by
    have refused : before.stores.jobs.insert
        ⟨site.jobId request, (site.request request).idempotencyKey, routed.requestHash,
          pipelineToJson routed.pipeline,
          originalKey (site.jobId request) (site.request request).filename,
          resultKey (site.jobId request), .pending, now⟩ = none := by
      refine dif_neg (fun fresh => fresh row member (.inr ⟨empty.trans header.symm, ?_⟩))
      change (site.request request).idempotencyKey ≠ none
      rw [header]
      exact Option.some_ne_none _
    rw [JobsTable.createJob, if_pos stores, refused]
  obtain ⟨⟨storesAfter, next⟩, served, rfl⟩ := Option.map_eq_some_iff.mp stepped
  rw [State.afterRequest_same]
  rw [inserting, serve] at served
  cases served
  rw [clash]
  change Phase.afterInsert routed (.error .uniqueViolation) = _
  unfold Phase.afterInsert
  dsimp only
  split
  · rename_i key usable
    rw [keyless] at usable
    cases usable
  · rfl

theorem ended_stays {before after : State site} {event : Event R W} {outcome : Outcome}
    (ended : before.requests request = .ended outcome)
    (stepped : before.step event = some after) : after.requests request = .ended outcome := by
  rcases (State.step_cases stepped).requests_eq request with
    same | ⟨_, waiting, _⟩ | ⟨now, reply, _, served⟩
  · exact same.trans ended
  · rw [ended] at waiting
    cases waiting
  · rw [ended] at served
    generalize after.requests request = next at served ⊢
    generalize after.stores = stores at served
    cases served with
    | failed early => cases early

/-- A request without a usable key goes its way as if alone, whatever happened
before, exactly if none of its INSERTs with an empty header meets a row with the
empty key. -/
theorem keyless_undisturbed_iff (keyless : (site.request request).usableKey = none)
    {events : List (Event R W)} {finish : State site}
    (ran : (machine site).run anything (.initial site) events = some finish) :
    Undisturbed site request events finish ↔
      ∀ state now reply, (machine site).Takes anything (.initial site) events state
        (.request request now reply) → ¬ Blocked site request state reply := by
  constructor
  · intro undisturbed state now reply takes blocked
    obtain ⟨_, after, stepped, first, ⟨rest, rfl⟩, before⟩ := takes.next ran
    have ended := blocked_ends keyless blocked stepped
    obtain ⟨middle, ranFirst, later⟩ := Machine.run_append.mp ran
    obtain rfl := Option.some.inj (before.symm.trans ranFirst)
    have reaches : (machine site).Reaches anything after finish := ⟨rest, later⟩
    exact undisturbed.noViolation (reaches.preserves
      (fun current => current.requests request = .ended (.raised .uniqueViolation))
      (fun held _ taken => ended_stays held taken) ended)
  · intro unblocked
    have alone := run_alone keyless (.refl _) ran unblocked
    exact ⟨alone.1, alone.2 (fun same => nomatch same)⟩

end Runs

/-! ### Two empty headers -/

/-- Two requests for the same image from clients that send the header without a
value, or without the header. -/
def emptyHeaderSite (header : Option Str) : Deployment Bool Unit Unit Unit :=
  { smallSite with
    request := fun _ => { pixelRequest with idempotencyKey := header }
    maxQueueLength := 2 }

/-- One after the other, each call answered. -/
def bothRequests : List (Event Bool Unit) :=
  [.start false, .request false 0 .answered, .request false 0 .answered,
    .request false 0 .answered, .request false 0 .answered,
    .start true, .request true 0 .answered, .request true 0 .answered,
    .request true 0 .answered]

def afterBoth (header : Option Str) : State (emptyHeaderSite header) :=
  (machine (emptyHeaderSite header)).finalState anything bothRequests

def violated {runtime : Runtime} {request : Request} : Phase runtime request → Bool
  | .ended (.raised raised) => raised = .uniqueViolation
  | _ => false

theorem violated_eq {runtime : Runtime} {request : Request} {phase : Phase runtime request}
    (violation : violated phase = true) : phase = .ended (.raised .uniqueViolation) := by
  unfold violated at violation
  split at violation
  · rw [of_decide_eq_true violation]
  · cases violation

/-- The second client gets a 500 for an empty header. -/
theorem empty_header_disturbed :
    ((emptyHeaderSite (some [])).request true).usableKey = none ∧
    (machine (emptyHeaderSite (some []))).run anything (.initial _) bothRequests =
      some (afterBoth (some [])) ∧
    (afterBoth (some [])).requests true = .ended (.raised .uniqueViolation) ∧
    ¬ Undisturbed (emptyHeaderSite (some [])) true bothRequests (afterBoth (some [])) := by
  have ended : (afterBoth (some [])).requests true = .ended (.raised .uniqueViolation) :=
    violated_eq (by decide +kernel)
  exact ⟨rfl, Machine.run_finalState (by decide +kernel), ended,
    fun undisturbed => undisturbed.noViolation ended⟩

theorem keyless_undisturbed_iff_missing :
    Undisturbed (emptyHeaderSite none) true bothRequests (afterBoth none) := by
  refine (keyless_undisturbed_iff rfl (Machine.run_finalState (by decide +kernel))).mpr ?_
  intro state now reply takes blocked
  obtain ⟨routed, inserting, header, rest⟩ := blocked
  cases header

end ImagePipeline.Properties.KeylessRequests
