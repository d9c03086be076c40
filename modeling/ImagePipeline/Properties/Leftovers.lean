/-
What a call of `create_job` that inserts no row leaves behind. The storage
client has no way to delete, so the original stays once it is uploaded; nothing
else does, and nothing at all if the call ends before its upload.
-/

import ImagePipeline.Properties.ResultIntegrity

namespace ImagePipeline.Properties.Leftovers

open Common
open Cluster
open Api.CreateJob (Phase Routed Served)
open Library (Machine)
open ResultIntegrity (Intact inputKey intact_of_reachable)

/-- An original's or a result's key with the job's id in it. -/
def UnderJob (jobId : JobId) (key : Str) : Prop :=
  ∃ name, key = str "originals/" ++ (jobId.text ++ slash :: name) ∨
    key = str "results/" ++ (jobId.text ++ slash :: name)

theorem originalKey_underJob {jobId other : JobId} {filename : Option Str}
    (under : UnderJob jobId (originalKey other filename)) : other = jobId := by
  obtain ⟨name, same | same⟩ := under
  · exact JobId.ext_text (prefix_eq_of_separator other.noSlash jobId.noSlash
      (List.append_cancel_left same))
  · have heads : some (codePoint 'o') = some (codePoint 'r') := congrArg List.head? same
    exact absurd heads (by decide)

theorem resultKey_underJob {jobId other : JobId} (under : UnderJob jobId (resultKey other)) :
    other = jobId := by
  obtain ⟨name, same | same⟩ := under
  · have heads : some (codePoint 'r') = some (codePoint 'o') := congrArg List.head? same
    exact absurd heads (by decide)
  · exact JobId.ext_text (prefix_eq_of_separator other.noSlash jobId.noSlash
      (List.append_cancel_left same))

section Phases

variable {runtime : Runtime} {request : Api.CreateJob.Request} {maxQueueLength : Nat}
  {jobId : JobId} {stores after : Stores} {now : Timestamp} {reply : Reply}
  {phase next : Phase runtime request}

/-- The call has not uploaded, and if it is over it was answered 400 or 429. -/
def notUploaded : Phase runtime request → Bool
  | .waiting | .lookup _ _ _ | .checkLength _ | .uploadImage _ => true
  | .ended outcome => outcome.statusCode = 400 ∨ outcome.statusCode = 429
  | .insertRow _ | .lookupAgain _ _ _ | .push _ | .markFailed _ => false

theorem not_notUploaded_of_raised {raised : Exn} (notHttp : raised.isHttp = false) :
    notUploaded (.ended (.raised raised) : Phase runtime request) = false := by
  have broken : (Api.CreateJob.Outcome.raised raised).statusCode = 500 :=
    Api.CreateJob.statusCode_of_notHttp notHttp
  simp only [notUploaded, broken, Nat.reduceEqDiff, or_self, decide_false]

theorem not_notUploaded_afterPush (jobId : JobId) (routed : Routed runtime request)
    (reply : Reply) : notUploaded (Phase.afterPush jobId routed reply.result) = false := by
  cases reply with
  | answered => rfl
  | raised fault applied =>
      rcases Phase.afterPush_error jobId routed fault.exn with next | next
      · rw [Reply.result, next]
        rfl
      · rw [Reply.result, next]
        exact not_notUploaded_of_raised fault.exn_isHttp

theorem notUploaded_earlier
    (served : Served maxQueueLength jobId stores now phase reply after next)
    (clean : notUploaded next = true) : notUploaded phase = true := by
  cases served with
  | hit => rfl
  | miss => rfl
  | rejected => rfl
  | admitted => rfl
  | stored => rfl
  | failed early notHttp =>
      rw [not_notUploaded_of_raised notHttp] at clean
      cases clean
  | hitAgain =>
      unfold Api.CreateJob.answerFrom at clean
      split at clean <;> cases clean
  | inserted took accepted =>
      cases reply with
      | answered => cases clean
      | raised fault applied =>
          rw [Reply.result, Phase.afterInsert_fault,
            not_notUploaded_of_raised fault.exn_isHttp] at clean
          cases clean
  | refused => cases clean
  | pushed =>
      rw [not_notUploaded_afterPush] at clean
      cases clean
  | unpushed =>
      rename_i routed fault
      have pushed := not_notUploaded_afterPush jobId routed (.raised fault false)
      rw [Reply.result, clean] at pushed
      cases pushed
  | marked =>
      cases reply with
      | answered => cases clean
      | raised fault applied =>
          have ended : notUploaded (.ended (.raised fault.exn) : Phase runtime request) = true :=
            clean
          rw [not_notUploaded_of_raised fault.exn_isHttp] at ended
          cases ended
  | unmarked =>
      rename_i routed fault
      have ended : notUploaded (.ended (.raised fault.exn) : Phase runtime request) = true := clean
      rw [not_notUploaded_of_raised fault.exn_isHttp] at ended
      cases ended

end Phases

section Steps

variable {R P W Image : Type} [DecidableEq R] [DecidableEq P] [DecidableEq W]
  {site : Deployment R P W Image} {before after state : State site}

/-- The step is an upload of the request that takes effect. -/
def Uploads (before : State site) (event : Event R W) (request : R) : Prop :=
  ∃ now reply routed, event = .request request now reply ∧
    before.requests request = .uploadImage routed ∧ reply.takesEffect = true

/-- Some step of the run is. -/
def Uploaded (site : Deployment R P W Image) (events : List (Event R W)) (request : R) : Prop :=
  ∃ before event, (machine site).Takes anything (.initial site) events before event ∧
    Uploads before event request

theorem uploads_objects {event : Event R W} {request : R} (uploads : Uploads before event request)
    (stepped : before.step event = some after) :
    after.stores.objects = Function.update before.stores.objects (inputKey site request)
      (some (site.request request).imageBytes) ∧
    notUploaded (after.requests request) = false := by
  obtain ⟨now, reply, routed, rfl, uploading, took⟩ := uploads
  obtain ⟨⟨stores, next⟩, served, rfl⟩ := Option.map_eq_some_iff.mp stepped
  rw [uploading] at served
  cases served
  constructor
  · rw [State.afterRequest_stores]
    exact if_pos took
  · rw [State.afterRequest_same]
    cases reply with
    | answered => rfl
    | raised fault applied => exact not_notUploaded_of_raised fault.exn_isHttp

/-- What a step can do to the object store: nothing, an upload of an original,
or an upload of the result of a job that has its row. -/
theorem step_objects {event : Event R W} (intact : Intact before)
    (stepped : before.Stepped event after) :
    after.stores.objects = before.stores.objects ∨
    (∃ request, Uploads before event request) ∨
    ∃ request data, before.Inserted request ∧ after.stores.objects =
      Function.update before.stores.objects (resultKey (site.jobId request)) (some data) := by
  cases stepped with
  | started => exact .inl rfl
  | stopped => exact .inl rfl
  | restarted => exact .inl rfl
  | requested served =>
      rename_i request now reply stores next
      generalize current : before.requests request = phase at served
      cases served with
      | stored took => exact .inr (.inl ⟨request, now, reply, _, rfl, current, took⟩)
      | _ => exact .inl rfl
  | worked served =>
      rename_i worker reply stores next
      have working := intact.working worker
      generalize before.workers worker = phase at served working
      cases served with
      | uploaded took =>
          rename_i jobId metadata data attempt
          obtain ⟨request, describes, _⟩ := working
          refine .inr (.inr ⟨request, data, describes.inserted, ?_⟩)
          rw [← describes.ownJob, ← describes.resultAt]
          rfl
      | _ => exact .inl rfl

theorem step_original {event : Event R W} (intact : Intact before)
    (stepped : before.step event = some after) (request : R) :
    after.stores.objects (inputKey site request) = before.stores.objects (inputKey site request) ∨
    Uploads before event request := by
  rcases step_objects intact (State.step_cases stepped) with
    same | ⟨owner, uploads⟩ | ⟨owner, data, _, written⟩
  · exact .inl (congrFun same _)
  · by_cases own : request = owner
    · subst own
      exact .inr uploads
    · left
      rw [(uploads_objects uploads stepped).1, Function.update_of_ne]
      intro sameKey
      exact own (site.fresh (originalKey_jobId sameKey))
  · left
    rw [written, Function.update_of_ne (ResultIntegrity.inputKey_ne_resultKey _ _)]

structure Accounted (state : State site) (uploaded : R → Prop) : Prop where
  original : ∀ request, uploaded request → state.stores.objects (inputKey site request) =
    some (site.request request).imageBytes
  absent : ∀ request, ¬ uploaded request → state.stores.objects (inputKey site request) = none
  clean : ∀ request, notUploaded (state.requests request) = true → ¬ uploaded request
  keys : ∀ key, state.stores.objects key ≠ none → (∃ request, key = inputKey site request) ∨
    ∃ request, key = resultKey (site.jobId request) ∧ state.Inserted request

theorem Accounted.step {event : Event R W} {uploaded : R → Prop} (intact : Intact before)
    (accounted : Accounted before uploaded) (stepped : before.step event = some after) :
    Accounted after (fun request => uploaded request ∨ Uploads before event request) := by
  have cases := State.step_cases stepped
  constructor
  · rintro request (earlier | uploads)
    · rcases step_original intact stepped request with same | uploads
      · rw [same, accounted.original request earlier]
      · rw [(uploads_objects uploads stepped).1, Function.update_self]
    · rw [(uploads_objects uploads stepped).1, Function.update_self]
  · intro request never
    rw [not_or] at never
    rcases step_original intact stepped request with same | uploads
    · rw [same, accounted.absent request never.1]
    · exact absurd uploads never.2
  · rintro request clean (earlier | uploads)
    · refine accounted.clean request ?_ earlier
      rcases cases.requests_eq request with same | ⟨_, waiting, _⟩ | ⟨_, _, _, served⟩
      · rw [← same]
        exact clean
      · rw [waiting]
        rfl
      · exact notUploaded_earlier served clean
    · rw [(uploads_objects uploads stepped).2] at clean
      cases clean
  · intro key present
    have kept (known : (∃ request, key = inputKey site request) ∨
        ∃ request, key = resultKey (site.jobId request) ∧ before.Inserted request) :
        (∃ request, key = inputKey site request) ∨
        ∃ request, key = resultKey (site.jobId request) ∧ after.Inserted request := by
      rcases known with original | ⟨request, same, inserted⟩
      · exact .inl original
      · exact .inr ⟨request, same, inserted.of_submissions fun _ => cases.effect.submissions⟩
    rcases step_objects intact cases with same | ⟨owner, uploads⟩ | ⟨owner, data, inserted, written⟩
    · rw [same] at present
      exact kept (accounted.keys key present)
    · rw [(uploads_objects uploads stepped).1] at present
      by_cases own : key = inputKey site owner
      · exact .inl ⟨owner, own⟩
      · rw [Function.update_of_ne own] at present
        exact kept (accounted.keys key present)
    · rw [written] at present
      by_cases own : key = resultKey (site.jobId owner)
      · exact kept (.inr ⟨owner, own, inserted⟩)
      · rw [Function.update_of_ne own] at present
        exact kept (accounted.keys key present)

theorem accounted_of_run {events : List (Event R W)}
    (ran : (machine site).run anything (.initial site) events = some state) :
    Accounted state (Uploaded site events) := by
  induction events using List.reverseRecOn generalizing state with
  | nil =>
      obtain rfl : State.initial site = state := Option.some.inj ran
      have never (request : R) : ¬ Uploaded site [] request := by
        intro ⟨_, _, ⟨first, isPrefix, _⟩, _⟩
        exact absurd (List.prefix_nil.mp isPrefix) (by simp)
      constructor
      · exact fun request uploaded => absurd uploaded (never request)
      · exact fun _ _ => rfl
      · exact fun request _ => never request
      · exact fun _ present => absurd rfl present
  | append_singleton events event ih =>
      obtain ⟨middle, before, _, taken⟩ := Machine.run_snoc.mp ran
      have reached : (machine site).Reachable anything middle := ⟨events, before⟩
      have accounted := (ih before).step (intact_of_reachable reached) taken
      have uploads (request : R) : Uploaded site (events ++ [event]) request ↔
          Uploaded site events request ∨ Uploads middle event request := by
        unfold Uploaded
        simp only [Machine.takes_snoc before]
        constructor
        · rintro ⟨state, other, earlier | ⟨rfl, rfl⟩, uploads⟩
          · exact .inl ⟨state, other, earlier, uploads⟩
          · exact .inr uploads
        · rintro (⟨state, other, earlier, uploads⟩ | uploads)
          · exact ⟨state, other, .inl earlier, uploads⟩
          · exact ⟨middle, event, .inr ⟨rfl, rfl⟩, uploads⟩
      have same : Uploaded site (events ++ [event]) =
          fun request => Uploaded site events request ∨ Uploads middle event request :=
        funext fun request => propext (uploads request)
      rw [same]
      exact accounted

/-- A call that is over without a row of its own leaves nothing in the table,
in the queues and among the results; its original is there exactly if its upload
took effect, which is never so after 400 and 429. With no call under way, every
original belongs to a row or to such a call. -/
theorem calls_without_row_leave_their_upload {events : List (Event R W)}
    (ran : (machine site).run anything (.initial site) events = some state) :
    (∀ request outcome, state.requests request = .ended outcome → ¬ state.Inserted request →
      (∀ row ∈ state.stores.jobs.rows, row.jobId ≠ site.jobId request) ∧
      (∀ name, site.jobId request ∉ (state.queue name).items) ∧
      (∀ key, UnderJob (site.jobId request) key → key ≠ inputKey site request →
        state.stores.objects key = none) ∧
      (Uploaded site events request → state.stores.objects (inputKey site request) =
        some (site.request request).imageBytes) ∧
      (¬ Uploaded site events request → state.stores.objects (inputKey site request) = none) ∧
      (outcome.statusCode = 400 ∨ outcome.statusCode = 429 → ¬ Uploaded site events request)) ∧
    ((∀ request, (state.requests request).active = false) →
      ∀ jobId name, state.stores.objects (str "originals/" ++ (jobId.text ++ slash :: name)) ≠ none →
        (∃ row ∈ state.stores.jobs.rows, row.jobId = jobId) ∨
        ∃ request outcome, site.jobId request = jobId ∧ state.requests request = .ended outcome ∧
          ¬ state.Inserted request ∧ Uploaded site events request) := by
  have reached : (machine site).Reachable anything state := ⟨events, ran⟩
  have owned := State.reachable_ownership reached
  have accounted := accounted_of_run ran
  have inserted_of_row {row : JobRow} (member : row ∈ state.stores.jobs.rows) :
      ∃ request, row.jobId = site.jobId request ∧ state.Inserted request := by
    have entry := JobsTable.submission_mem member
    obtain ⟨request, routed, now, same, _⟩ := owned.rowsOwned _ entry
    exact ⟨request, congrArg JobRow.jobId same, routed, now, same ▸ entry⟩
  constructor
  · intro request outcome ended notInserted
    have rowless : ∀ row ∈ state.stores.jobs.rows, row.jobId ≠ site.jobId request := by
      intro row member own
      obtain ⟨owner, sameId, inserted⟩ := inserted_of_row member
      obtain rfl : request = owner := site.fresh (own.symm.trans sameId)
      exact notInserted inserted
    refine ⟨rowless, ?_, ?_, accounted.original request, accounted.absent request, ?_⟩
    · intro name waiting
      obtain ⟨row, member, same, _⟩ := State.row_of_pushed owned
        (State.reachable_deliveries reached) (Library.FifoLog.mem_pushed.mpr (.inr waiting))
      exact rowless row member same
    · intro key under other
      by_contra present
      rcases accounted.keys key present with ⟨owner, rfl⟩ | ⟨owner, rfl, inserted⟩
      · exact other (by rw [site.fresh (originalKey_underJob under)])
      · rw [site.fresh (resultKey_underJob under)] at inserted
        exact notInserted inserted
    · intro rejected
      apply accounted.clean
      rw [ended]
      exact decide_eq_true rejected
  · intro idle jobId name present
    rcases accounted.keys _ present with ⟨owner, same⟩ | ⟨owner, same, _⟩
    · have own : site.jobId owner = jobId :=
        originalKey_underJob (same ▸ ⟨name, .inl rfl⟩ : UnderJob jobId (inputKey site owner))
      by_cases inserted : state.Inserted owner
      · obtain ⟨row, member, routed, now, stored⟩ := inserted.row
        have ownId : row.jobId = site.jobId owner := congrArg JobRow.jobId stored
        exact .inl ⟨row, member, ownId.trans own⟩
      · right
        have uploaded : Uploaded site events owner := by
          by_contra never
          rw [same, accounted.absent owner never] at present
          exact present rfl
        cases phase : state.requests owner with
        | ended outcome => exact ⟨owner, outcome, own, phase, inserted, uploaded⟩
        | waiting => exact absurd uploaded (accounted.clean owner (by rw [phase]; rfl))
        | _ =>
            have active := idle owner
            rw [phase] at active
            cases active
    · have heads : some (codePoint 'o') = some (codePoint 'r') := congrArg List.head? same
      exact absurd heads (by decide)

end Steps

/-! ### A failing INSERT -/

/-- The upload goes through, then the database cannot be reached. -/
def insertFails : List (Event Bool Unit) :=
  .start false :: List.replicate 3 (.request false 0 .answered) ++
    [.request false 0 (.raised .other false)]

theorem insertFails_end :
    let state := (machine smallSite).finalState anything insertFails
    (machine smallSite).run anything (.initial smallSite) insertFails = some state := by
  intro state
  have runs :
      ((machine smallSite).run anything (.initial smallSite) insertFails).isSome = true := by
    decide +kernel
  obtain ⟨finish, ends⟩ := Option.isSome_iff_exists.mp runs
  have same : state = finish := by
    change ((machine smallSite).run anything (.initial smallSite) insertFails).getD _ = finish
    rw [ends]
    rfl
  rw [same, ends]

theorem insertFails_idle :
    ∀ request, (((machine smallSite).finalState anything insertFails).requests
      request).active = false := by decide +kernel

theorem insertFails_rowless :
    ((machine smallSite).finalState anything insertFails).stores.jobs.rows = [] := by
  have empty : ((machine smallSite).finalState anything insertFails).stores.jobs.rows.length =
      0 := by decide +kernel
  exact List.length_eq_zero_iff.mp empty

theorem insertFails_stored :
    ((machine smallSite).finalState anything insertFails).stores.objects
      (inputKey smallSite false) = some Worker.blackPixel := by decide +kernel

/-- Every object of an original belongs to a row, once nobody is at work: not so
after this run. -/
theorem failed_insert_leaves_original :
    ∃ state : State smallSite, (machine smallSite).Reachable anything state ∧
      (∀ request, (state.requests request).active = false) ∧
      (∃ outcome, state.requests false = .ended outcome) ∧ state.stores.jobs.rows = [] ∧
      ∃ key, UnderJob (smallSite.jobId false) key ∧
        state.stores.objects key = some Worker.blackPixel := by
  have ended : (((machine smallSite).finalState anything insertFails).requests
      false).hasEnded = true := by decide +kernel
  refine ⟨_, .finalState insertFails, insertFails_idle, ?_, insertFails_rowless,
    inputKey smallSite false, ⟨_, .inl rfl⟩, insertFails_stored⟩
  revert ended
  cases ((machine smallSite).finalState anything insertFails).requests false with
  | ended outcome => exact fun _ => ⟨outcome, rfl⟩
  | _ => exact fun ended => nomatch ended

/-- The theorem on that run: the original is that of a call without a row. -/
theorem calls_without_row_leave_their_upload_insertFails :
    let state := (machine smallSite).finalState anything insertFails
    ∃ request outcome, smallSite.jobId request = smallSite.jobId false ∧
      state.requests request = .ended outcome ∧ ¬ state.Inserted request ∧
      Uploaded smallSite insertFails request := by
  have accounted := (calls_without_row_leave_their_upload insertFails_end).2 insertFails_idle
    (smallSite.jobId false) ((smallSite.request false).filename.getD (str "None"))
  have present : ((machine smallSite).finalState anything insertFails).stores.objects
      (inputKey smallSite false) ≠ none := by
    rw [insertFails_stored]
    exact Option.some_ne_none _
  unfold inputKey originalKey at present
  rcases accounted present with ⟨row, member, _⟩ | culprit
  · rw [insertFails_rowless] at member
    cases member
  · exact culprit

end ImagePipeline.Properties.Leftovers
