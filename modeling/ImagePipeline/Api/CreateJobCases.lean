/-
Everything one call of `create_job` to a service can do, once: the stores
afterwards and the phase it leads to. Proofs about requests argue by these
cases and never unfold the code again.
-/

import ImagePipeline.Api.CreateJob

namespace ImagePipeline.Api.CreateJob

open Common

variable {runtime : Runtime} {request : Request}

namespace Phase

/-- Between the start and the insert: nothing of this call is in the jobs
table, and its next call can still end it. -/
def early : Phase runtime request → Bool
  | .lookup _ _ _ | .checkLength _ | .uploadImage _ | .insertRow _ | .lookupAgain _ _ _ => true
  | .waiting | .push _ | .markFailed _ | .ended _ => false

def beforeInsert : Phase runtime request → Bool
  | .waiting | .lookup _ _ _ | .checkLength _ | .uploadImage _ | .insertRow _ => true
  | .lookupAgain _ _ _ | .push _ | .markFailed _ | .ended _ => false

/-- The row is in the table and the outcome of its submission is open. -/
def submitting : Phase runtime request → Bool
  | .push _ | .markFailed _ => true
  | _ => false

def pushing : Phase runtime request → Bool
  | .push _ => true
  | _ => false

def looksFor : Phase runtime request → Option Str
  | .lookup _ key _ | .lookupAgain _ key _ => some key
  | _ => none

def active : Phase runtime request → Bool
  | .waiting | .ended _ => false
  | _ => true

/-- The queue for which the call has passed the length check without having
pushed yet. -/
def admitted? : Phase runtime request → Option QueueName
  | .uploadImage routed | .insertRow routed | .push routed => some routed.target
  | _ => none

/-- The phases in which `push_job` may have been called. -/
def pastPush : Phase runtime request → Bool
  | .markFailed _ | .ended _ => true
  | _ => false

theorem submitting_of_pushing {phase : Phase runtime request} (pushing : phase.pushing = true) :
    phase.submitting = true := by
  cases phase with
  | push routed => rfl
  | _ => cases pushing

theorem not_submitting_of_early {phase : Phase runtime request} (early : phase.early = true) :
    phase.submitting = false := by
  cases phase with
  | push routed => cases early
  | markFailed routed => cases early
  | _ => rfl

theorem not_pastPush_of_pushing {phase : Phase runtime request}
    (pushing : phase.pushing = true) : phase.pastPush = false := by
  cases phase with
  | push routed => rfl
  | _ => cases pushing

theorem not_looking_of_pushing {phase : Phase runtime request} (pushing : phase.pushing = true) :
    phase.looksFor = none := by
  cases phase with
  | push routed => rfl
  | _ => cases pushing

theorem active_of_admitted {phase : Phase runtime request} {name : QueueName}
    (admitted : phase.admitted? = some name) : phase.active = true := by
  cases phase with
  | waiting => cases admitted
  | ended outcome => cases admitted
  | _ => rfl

theorem route_cases (submission : Submission runtime request) :
    (∃ routed : Routed runtime request,
      routed.toSubmission = submission ∧ route submission = .checkLength routed) ∨
    ∃ raised, raised.isHttp = false ∧ route submission = .ended (.raised raised) := by
  unfold route
  split
  · rename_i raised classified
    exact .inr ⟨raised, by rw [isHeavyPipeline_error classified]; rfl, rfl⟩
  · exact .inl ⟨_, rfl, rfl⟩

/-- How far a request is never goes back. Only an insert makes it submitting. -/
structure Later (before after : Phase runtime request) : Prop where
  inserted : before.beforeInsert = false → after.beforeInsert = false
  submitting : after.submitting = true → before.submitting = true
  pastPush : before.pastPush = true → after.pastPush = true

theorem Later.refl (phase : Phase runtime request) : Later phase phase := ⟨id, id, id⟩

theorem Later.ended (phase : Phase runtime request) (outcome : Outcome) :
    Later phase (.ended outcome) where
  inserted _ := rfl
  submitting submitting := by cases submitting
  pastPush _ := rfl

/-- Before the insert every move that is not the insert itself will do. -/
theorem Later.of_beforeInsert {phase next : Phase runtime request}
    (before : phase.beforeInsert = true) (free : next.submitting = false) :
    Later phase next where
  inserted inserted := by
    rw [before] at inserted
    cases inserted
  submitting submitting := by
    rw [free] at submitting
    cases submitting
  pastPush past := by
    cases phase with
    | waiting | lookup | checkLength | uploadImage | insertRow => cases past
    | lookupAgain | push | markFailed | ended => cases before

theorem Later.route {phase : Phase runtime request} (before : phase.beforeInsert = true)
    (submission : Submission runtime request) : Later phase (.route submission) := by
  rcases route_cases submission with ⟨routed, _, next⟩ | ⟨raised, _, next⟩
  · rw [next]
    exact .of_beforeInsert before rfl
  · rw [next]
    exact .ended phase _

theorem Later.start : Later .waiting (Phase.start runtime request) := by
  unfold Phase.start
  split
  · exact .ended _ _
  · split
    · exact .of_beforeInsert rfl rfl
    · exact .route rfl _

theorem afterPush_error (jobId : JobId) (routed : Routed runtime request) (raised : Exn) :
    afterPush jobId routed (.error raised) = .markFailed routed ∨
      afterPush jobId routed (.error raised) = .ended (.raised raised) := by
  cases found : raised.isRedisError with
  | true => exact .inl (if_pos found)
  | false => exact .inr (if_neg (by rw [found]; exact Bool.false_ne_true))

theorem afterPush_pastPush (jobId : JobId) (routed : Routed runtime request)
    (answer : Except Exn Unit) : (afterPush jobId routed answer).pastPush = true := by
  cases answer with
  | ok _ => rfl
  | error raised =>
      rcases afterPush_error jobId routed raised with next | next <;>
        rw [next] <;> rfl

theorem afterPush_beforeInsert (jobId : JobId) (routed : Routed runtime request)
    (answer : Except Exn Unit) : (afterPush jobId routed answer).beforeInsert = false := by
  have past := afterPush_pastPush jobId routed answer
  revert past
  cases afterPush jobId routed answer <;> exact fun past => by first | rfl | cases past

theorem afterInsert_beforeInsert (routed : Routed runtime request) (answer : Except Exn Unit) :
    (afterInsert routed answer).beforeInsert = false := by
  unfold afterInsert
  split
  · rfl
  · split <;> rfl
  · rfl

theorem afterInsert_fault (routed : Routed runtime request) (fault : Fault) :
    afterInsert routed (.error fault.exn) = .ended (.raised fault.exn) := by
  cases fault <;> rfl

end Phase

def answerFrom (row : JobRow) (pipeline : List PipelineStep) (requestHash : Option Str) :
    Outcome :=
  if row.idempotencyRequestHash = requestHash then
    .returned row.jobId row.status (pipelineToJson pipeline)
  else .raised conflict

inductive Served (maxQueueLength : Nat) (jobId : JobId) (stores : Stores) (now : Timestamp) :
    Phase runtime request → Reply → Stores → Phase runtime request → Prop where
  | hit {submission : Submission runtime request} {key : Str}
      {usable : request.usableKey = some key} {row : JobRow} {pipeline : List PipelineStep}
      (member : row ∈ stores.jobs.rows) (keyed : row.idempotencyKey = some key)
      (decoded : pipelineFromJson row.pipeline = .ok pipeline) :
      Served maxQueueLength jobId stores now (.lookup submission key usable) .answered stores
        (.ended (answerFrom row pipeline submission.requestHash))
  | hitAgain {routed : Routed runtime request} {key : Str}
      {usable : request.usableKey = some key} {row : JobRow} {pipeline : List PipelineStep}
      (member : row ∈ stores.jobs.rows) (keyed : row.idempotencyKey = some key)
      (decoded : pipelineFromJson row.pipeline = .ok pipeline) :
      Served maxQueueLength jobId stores now (.lookupAgain routed key usable) .answered stores
        (.ended (answerFrom row pipeline routed.requestHash))
  | miss {submission : Submission runtime request} {key : Str}
      {usable : request.usableKey = some key}
      (absent : ∀ row ∈ stores.jobs.rows, row.idempotencyKey ≠ some key) :
      Served maxQueueLength jobId stores now (.lookup submission key usable) .answered stores
        (.route submission)
  | failed {phase : Phase runtime request} {reply : Reply} {raised : Exn}
      (early : phase.early = true) (notHttp : raised.isHttp = false) :
      Served maxQueueLength jobId stores now phase reply stores (.ended (.raised raised))
  | rejected {routed : Routed runtime request}
      (full : maxQueueLength ≤ (stores.queues routed.target).items.length) :
      Served maxQueueLength jobId stores now (.checkLength routed) .answered stores
        (.ended (.raised capacityReached))
  | admitted {routed : Routed runtime request}
      (room : (stores.queues routed.target).items.length < maxQueueLength) :
      Served maxQueueLength jobId stores now (.checkLength routed) .answered stores
        (.uploadImage routed)
  | stored {routed : Routed runtime request} {reply : Reply} (took : reply.takesEffect = true) :
      Served maxQueueLength jobId stores now (.uploadImage routed) reply
        { stores with
          objects := Function.update stores.objects (originalKey jobId request.filename)
            (some request.imageBytes) }
        (.afterUpload routed reply.result)
  | inserted {routed : Routed runtime request} {reply : Reply} {jobs : JobsTable}
      (took : reply.takesEffect = true)
      (accepted : stores.jobs.insert (newRow jobId routed now) = some jobs) :
      Served maxQueueLength jobId stores now (.insertRow routed) reply { stores with jobs }
        (.afterInsert routed reply.result)
  | refused {routed : Routed runtime request} {key : Str}
      {usable : request.usableKey = some key} {row : JobRow}
      (member : row ∈ stores.jobs.rows) (clash : row.Clash (newRow jobId routed now)) :
      Served maxQueueLength jobId stores now (.insertRow routed) .answered stores
        (.lookupAgain routed key usable)
  | pushed {routed : Routed runtime request} {reply : Reply} (took : reply.takesEffect = true) :
      Served maxQueueLength jobId stores now (.push routed) reply
        (stores.setQueue routed.target ((stores.queues routed.target).push jobId))
        (.afterPush jobId routed reply.result)
  | unpushed {routed : Routed runtime request} {fault : Fault} :
      Served maxQueueLength jobId stores now (.push routed) (.raised fault false) stores
        (.afterPush jobId routed (.error fault.exn))
  | marked {routed : Routed runtime request} {reply : Reply} (took : reply.takesEffect = true) :
      Served maxQueueLength jobId stores now (.markFailed routed) reply
        { stores with jobs := stores.jobs.updateStatus jobId .failed }
        (.afterMarkFailed reply.result)
  | unmarked {routed : Routed runtime request} {fault : Fault} :
      Served maxQueueLength jobId stores now (.markFailed routed) (.raised fault false) stores
        (.afterMarkFailed (.error fault.exn))

variable {maxQueueLength : Nat} {jobId : JobId} {stores after : Stores} {now : Timestamp}
  {reply : Reply} {phase next : Phase runtime request}

private theorem served_lookup {submission : Submission runtime request} {key : Str}
    {usable : request.usableKey = some key} :
    Served maxQueueLength jobId stores now (.lookup submission key usable) reply stores
      (.afterLookup submission (reply.read (stores.jobs.getJobByIdempotencyKey key))) := by
  cases read : reply.read (stores.jobs.getJobByIdempotencyKey key) with
  | error raised =>
      have notHttp : raised.isHttp = false :=
        (Reply.read_error read).elim JobsTable.getJobByIdempotencyKey_error id
      exact .failed rfl notHttp
  | ok found =>
      obtain ⟨rfl, succeeded⟩ := Reply.read_ok read
      rcases JobsTable.getJobByIdempotencyKey_ok succeeded with
        ⟨rfl, absent⟩ | ⟨row, member, keyed, metadata, rfl, sameId, sameStatus, decoded⟩
      · exact .miss absent
      · have hit : Served maxQueueLength jobId stores now (.lookup submission key usable)
            .answered stores (.ended (answerFrom row metadata.pipeline submission.requestHash)) :=
          .hit member keyed decoded
        rw [answerFrom, ← sameId, ← sameStatus] at hit
        exact hit

private theorem served_lookupAgain {routed : Routed runtime request} {key : Str}
    {usable : request.usableKey = some key} :
    Served maxQueueLength jobId stores now (.lookupAgain routed key usable) reply stores
      (.afterLookupAgain routed (reply.read (stores.jobs.getJobByIdempotencyKey key))) := by
  cases read : reply.read (stores.jobs.getJobByIdempotencyKey key) with
  | error raised =>
      have notHttp : raised.isHttp = false :=
        (Reply.read_error read).elim JobsTable.getJobByIdempotencyKey_error id
      exact .failed rfl notHttp
  | ok found =>
      obtain ⟨rfl, succeeded⟩ := Reply.read_ok read
      rcases JobsTable.getJobByIdempotencyKey_ok succeeded with
        ⟨rfl, absent⟩ | ⟨row, member, keyed, metadata, rfl, sameId, sameStatus, decoded⟩
      · exact .failed rfl rfl
      · have hit : Served maxQueueLength jobId stores now (.lookupAgain routed key usable)
            .answered stores (.ended (answerFrom row metadata.pipeline routed.requestHash)) :=
          .hitAgain member keyed decoded
        rw [answerFrom, ← sameId, ← sameStatus] at hit
        exact hit

private theorem served_checkLength {routed : Routed runtime request} :
    Served maxQueueLength jobId stores now (.checkLength routed) reply stores
      (.afterLength maxQueueLength routed
        (queueLength (stores.queues routed.target) reply)) := by
  cases reply with
  | raised fault applied => exact .failed rfl fault.exn_isHttp
  | answered =>
      change Served maxQueueLength jobId stores now (.checkLength routed) .answered stores
        (if maxQueueLength ≤ (stores.queues routed.target).items.length then
          .ended (.raised capacityReached) else .uploadImage routed)
      by_cases full : maxQueueLength ≤ (stores.queues routed.target).items.length
      · rw [if_pos full]
        exact .rejected full
      · rw [if_neg full]
        exact .admitted (Nat.lt_of_not_le full)

private theorem served_insertRow {routed : Routed runtime request} {created : Except Exn JobsTable}
    (creates : stores.jobs.createJob jobId routed.pipeline
      (originalKey jobId request.filename) (resultKey jobId) request.idempotencyKey
      routed.requestHash now = created) :
    Served maxQueueLength jobId stores now (.insertRow routed) reply
      { stores with jobs := (stores.jobs.insertCall created reply).1 }
      (.afterInsert routed (stores.jobs.insertCall created reply).2) := by
  cases created with
  | ok jobs =>
      have inserted : stores.jobs.insert (newRow jobId routed now) = some jobs :=
        JobsTable.createJob_ok creates
      rcases reply.takesEffect_or with took | ⟨fault, rfl⟩
      · have served : Served maxQueueLength jobId stores now (.insertRow routed) reply
            { stores with jobs } (.afterInsert routed reply.result) := .inserted took inserted
        simpa only [JobsTable.insertCall, Reply.write, took, if_true] using served
      · rw [JobsTable.insertCall, Reply.write, Reply.result, Phase.afterInsert_fault]
        exact .failed rfl fault.exn_isHttp
  | error raised =>
      cases reply with
      | answered =>
          rcases JobsTable.createJob_error creates with rfl | ⟨rfl, refused⟩
          · exact .failed rfl rfl
          · obtain ⟨row, member, clash⟩ := JobsTable.insert_eq_none refused
            simp only [JobsTable.insertCall, Phase.afterInsert]
            split
            · exact .refused member clash
            · exact .failed rfl rfl
      | raised fault applied =>
          simp only [JobsTable.insertCall, Phase.afterInsert_fault]
          exact .failed rfl fault.exn_isHttp

theorem serve_cases
    (served : serve maxQueueLength jobId stores phase now reply = some (after, next)) :
    Served maxQueueLength jobId stores now phase reply after next := by
  cases phase with
  | waiting => cases served
  | ended outcome => cases served
  | lookup submission key usable => cases served; exact served_lookup
  | lookupAgain routed key usable => cases served; exact served_lookupAgain
  | checkLength routed => cases served; exact served_checkLength
  | insertRow routed => cases served; exact served_insertRow rfl
  | uploadImage routed =>
      cases served
      rcases reply.takesEffect_or with took | ⟨fault, rfl⟩
      · rw [if_pos took]
        exact .stored took
      · exact .failed rfl fault.exn_isHttp
  | push routed =>
      cases served
      rcases reply.takesEffect_or with took | ⟨fault, rfl⟩
      · rw [if_pos took]
        exact .pushed took
      · rw [Reply.takesEffect, if_neg Bool.false_ne_true, Stores.setQueue_self]
        exact .unpushed
  | markFailed routed =>
      cases served
      rcases reply.takesEffect_or with took | ⟨fault, rfl⟩
      · rw [if_pos took]
        exact .marked took
      · exact .unmarked

/-- The same steps by what they do to the jobs table and the queues: nothing
that a submission can notice, an insert, or a call of `push_job`. -/
inductive Effect (jobId : JobId) (stores : Stores) (now : Timestamp) :
    Phase runtime request → Reply → Stores → Phase runtime request → Prop where
  | quiet {phase next : Phase runtime request} {reply : Reply} {after : Stores}
      (submissions : after.jobs.submissions = stores.jobs.submissions)
      (queues : after.queues = stores.queues) (notPushing : phase.pushing = false)
      (later : phase.Later next) : Effect jobId stores now phase reply after next
  | inserted {routed : Routed runtime request} {reply : Reply} {jobs : JobsTable}
      (took : reply.takesEffect = true)
      (accepted : stores.jobs.insert (newRow jobId routed now) = some jobs) :
      Effect jobId stores now (.insertRow routed) reply { stores with jobs }
        (.afterInsert routed reply.result)
  | pushCall (routed : Routed runtime request) (reply : Reply) :
      Effect jobId stores now (.push routed) reply
        (stores.setQueue routed.target
          (reply.write (stores.queues routed.target)
            ((stores.queues routed.target).push jobId)).1)
        (.afterPush jobId routed reply.result)

theorem Served.effect
    (served : Served maxQueueLength jobId stores now phase reply after next) :
    Effect jobId stores now phase reply after next := by
  cases served with
  | hit => exact .quiet rfl rfl rfl (.ended _ _)
  | hitAgain => exact .quiet rfl rfl rfl (.ended _ _)
  | miss => exact .quiet rfl rfl rfl (.route rfl _)
  | failed early =>
      refine .quiet rfl rfl ?_ (.ended _ _)
      revert early
      cases phase <;> exact fun _ => by first | rfl | contradiction
  | rejected => exact .quiet rfl rfl rfl (.ended _ _)
  | admitted => exact .quiet rfl rfl rfl (.of_beforeInsert rfl rfl)
  | stored =>
      cases reply with
      | answered => exact .quiet rfl rfl rfl (.of_beforeInsert rfl rfl)
      | raised fault applied => exact .quiet rfl rfl rfl (.ended _ _)
  | inserted took accepted => exact .inserted took accepted
  | refused => exact .quiet rfl rfl rfl (.of_beforeInsert rfl rfl)
  | pushed took =>
      rename_i routed
      have call : Effect jobId stores now (.push routed) reply _ _ := .pushCall routed reply
      rw [Reply.write, if_pos took] at call
      exact call
  | unpushed =>
      rename_i routed fault
      have call : Effect jobId stores now (.push routed) (.raised fault false) _ _ :=
        .pushCall routed (.raised fault false)
      rw [Reply.write, Reply.takesEffect, if_neg Bool.false_ne_true, Stores.setQueue_self] at call
      exact call
  | marked took =>
      cases reply with
      | answered => exact .quiet (JobsTable.updateStatus_submissions ..) rfl rfl (.ended _ _)
      | raised fault applied =>
          exact .quiet (JobsTable.updateStatus_submissions ..) rfl rfl (.ended _ _)
  | unmarked => exact .quiet rfl rfl rfl (.ended _ _)

end ImagePipeline.Api.CreateJob
