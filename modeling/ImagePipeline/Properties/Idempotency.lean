/-
Idempotency keys. Whatever requests with one key do at the same time, there is
one row and at most one push for the key, every 200 names that row's job, and
the hashes decide between 200 and 409.
-/

import ImagePipeline.Cluster.Ownership

namespace ImagePipeline.Properties.Idempotency

open Common
open Cluster
open Api.CreateJob (Routed newRow)
open Library (Machine)

section Definitions

variable {R P W Image : Type} {site : Deployment R P W Image}

/-- The row under the key, as it was submitted. -/
def KeyedEntry (state : State site) (key : Str) (entry : JobRow) : Prop :=
  entry ∈ state.stores.jobs.submissions ∧ entry.idempotencyKey = some key

/-- Every answer already given to a request with a key agrees with the row
under that key. -/
structure Answered (state : State site) : Prop where
  accepted : ∀ request key jobId status pipeline,
    (site.request request).usableKey = some key →
    state.requests request = .ended (.returned jobId status pipeline) →
      ∃ entry, KeyedEntry state key entry ∧ entry.jobId = jobId ∧
        entry.idempotencyRequestHash = (site.request request).ownHash? site.runtime
  returned : ∀ request outcome, state.requests request = .ended outcome →
    outcome.statusCode = 200 → ∃ jobId status pipeline, outcome = .returned jobId status pipeline
  refused : ∀ request key outcome, (site.request request).usableKey = some key →
    state.requests request = .ended outcome → outcome.statusCode = 409 →
      ∃ entry, KeyedEntry state key entry ∧
        entry.idempotencyRequestHash ≠ (site.request request).ownHash? site.runtime

theorem KeyedEntry.of_row {state : State site} {key : Str} {row : JobRow}
    (member : row ∈ state.stores.jobs.rows) (keyed : row.idempotencyKey = some key) :
    KeyedEntry state key row.submission :=
  ⟨JobsTable.submission_mem member, keyed⟩

theorem KeyedEntry.row {state : State site} {key : Str} {entry : JobRow}
    (known : KeyedEntry state key entry) :
    ∃ row ∈ state.stores.jobs.rows, row.idempotencyKey = some key ∧
      row.submission = entry := by
  obtain ⟨member, keyed⟩ := known
  obtain ⟨row, rowMember, rfl⟩ := JobsTable.mem_submissions.mp member
  exact ⟨row, rowMember, keyed, rfl⟩

theorem keyed_of_inserted {state : State site} {request : R} {key : Str}
    (inserted : state.Inserted request) (usable : (site.request request).usableKey = some key) :
    ∃ entry, KeyedEntry state key entry ∧ entry.jobId = site.jobId request ∧
      entry.idempotencyRequestHash = (site.request request).ownHash? site.runtime := by
  obtain ⟨routed, now, member⟩ := inserted
  exact ⟨_, ⟨member, Api.CreateJob.Request.usableKey_eq usable⟩, rfl,
    routed.requestHash_eq usable⟩

/-- The call has nothing but a lookup to do, or is over. -/
def onlyLooks {runtime : Runtime} {request : Api.CreateJob.Request} :
    Api.CreateJob.Phase runtime request → Bool
  | .waiting | .lookup _ _ _ | .ended _ => true
  | _ => false

/-- The answers, rows and pushes of one key in a state, and what becomes of
requests that start from then on. -/
structure Agreement [DecidableEq R] [DecidableEq P] [DecidableEq W] (state : State site)
    (key : Str) : Prop where
  oneRow : (state.stores.jobs.rows.filter (fun row => row.idempotencyKey = some key)).length ≤ 1
  onePush : (state.pushCalls.filter
    (fun call => (site.request call.1).usableKey = some key)).length ≤ 1
  sameJob : ∀ request jobId status pipeline, (site.request request).usableKey = some key →
    state.requests request = .ended (.returned jobId status pipeline) →
      ∃ row ∈ state.stores.jobs.rows, row.idempotencyKey = some key ∧ row.jobId = jobId
  byHash : ∀ request outcome, (site.request request).usableKey = some key →
    state.requests request = .ended outcome →
      ∀ row ∈ state.stores.jobs.rows, row.idempotencyKey = some key →
        (row.idempotencyRequestHash ≠ (site.request request).ownHash? site.runtime →
          outcome.statusCode ≠ 200) ∧
        (row.idempotencyRequestHash = (site.request request).ownHash? site.runtime →
          outcome.statusCode ≠ 409)
  /-- A request that has not started yet changes no store once the row is
  there, whatever the others do meanwhile. -/
  latecomer : ∀ request, (site.request request).usableKey = some key →
    state.requests request = .waiting →
    (∃ row ∈ state.stores.jobs.rows, row.idempotencyKey = some key) →
      ∀ later, (machine site).Reaches anything state later →
        ∀ event, (event = .start request ∨ ∃ now reply, event = .request request now reply) →
          ∀ next, later.step event = some next → next.stores = later.stores

end Definitions

section Steps

variable {R P W Image : Type} {site : Deployment R P W Image} {before after : State site}

theorem Answered.initial : Answered (State.initial site) where
  accepted _ _ _ _ _ _ ended := nomatch ended
  returned _ _ ended := nomatch ended
  refused _ _ _ _ ended := nomatch ended

variable [DecidableEq R] [DecidableEq P] [DecidableEq W]

theorem KeyedEntry.step {key : Str} {entry : JobRow} (known : KeyedEntry before key entry)
    (effect : before.Effect after) : KeyedEntry after key entry :=
  ⟨effect.submissions known.1, known.2⟩

theorem Answered.step {event : Event R W} (owned : before.Ownership) (answered : Answered before)
    (stepped : before.Stepped event after) : Answered after := by
  have effect := stepped.effect
  refine ⟨?_, ?_, ?_⟩
  · intro request key jobId status pipeline usable ended
    rcases stepped.ended ended with earlier | ⟨_, broken⟩ | ⟨now, reply, _, ending⟩
    · obtain ⟨entry, known, rest⟩ :=
        answered.accepted request key jobId status pipeline usable earlier
      exact ⟨entry, known.step effect, rest⟩
    · rcases broken with wrong | wrong <;> cases wrong
    · rcases ending.of_returned with
        ⟨pushing, _, rfl⟩ | ⟨_, found, _, usableFound, row, member, keyed, rfl, sameHash⟩
      · have inserted := owned.submitted request
          (Api.CreateJob.Phase.submitting_of_pushing pushing)
        obtain ⟨entry, known, rest⟩ := keyed_of_inserted inserted usable
        exact ⟨entry, known.step effect, rest⟩
      · obtain rfl : key = found := Option.some.inj (usable.symm.trans usableFound)
        exact ⟨row.submission, (KeyedEntry.of_row member keyed).step effect, rfl, sameHash⟩
  · intro request outcome ended accepted
    rcases stepped.ended ended with earlier | ⟨_, broken⟩ | ⟨now, reply, _, ending⟩
    · exact answered.returned request outcome earlier accepted
    · rw [accepted] at broken
      rcases broken with wrong | wrong <;> cases wrong
    · exact ending.of_ok accepted
  · intro request key outcome usable ended refused
    rcases stepped.ended ended with earlier | ⟨_, broken⟩ | ⟨now, reply, _, ending⟩
    · obtain ⟨entry, known, different⟩ :=
        answered.refused request key outcome usable earlier refused
      exact ⟨entry, known.step effect, different⟩
    · rw [refused] at broken
      rcases broken with wrong | wrong <;> cases wrong
    · obtain ⟨found, usableFound, row, member, keyed, different⟩ := ending.of_conflict refused
      obtain rfl : key = found := Option.some.inj (usable.symm.trans usableFound)
      exact ⟨row.submission, (KeyedEntry.of_row member keyed).step effect, different⟩

theorem answered_of_reachable {permits : State site → Event R W → Bool} {state : State site}
    (reached : (machine site).Reachable permits state) : Answered state :=
  reached.invariant Answered .initial
    (fun reachedBefore answered _ stepped =>
      answered.step (State.reachable_ownership reachedBefore) (State.step_cases stepped))

end Steps

section Latecomers

variable {R P W Image : Type} {site : Deployment R P W Image} {before after : State site}

theorem start_onlyLooks {runtime : Runtime} {request : Api.CreateJob.Request} {key : Str}
    (usable : request.usableKey = some key) :
    onlyLooks (Api.CreateJob.Phase.start runtime request) = true := by
  unfold Api.CreateJob.Phase.start
  split
  · rfl
  · split
    · rfl
    · rename_i absent
      rw [usable] at absent
      cases absent

/-- The first lookup finds the row, so that nothing is written. -/
theorem served_onlyLooks {maxQueueLength : Nat} {jobId : JobId} {stores storesAfter : Stores}
    {now : Timestamp} {runtime : Runtime} {request : Api.CreateJob.Request} {key : Str}
    {reply : Reply} {phase next : Api.CreateJob.Phase runtime request}
    (served : Api.CreateJob.Served maxQueueLength jobId stores now phase reply storesAfter next)
    (usable : request.usableKey = some key) {row : JobRow} (member : row ∈ stores.jobs.rows)
    (keyed : row.idempotencyKey = some key) (looks : onlyLooks phase = true) :
    storesAfter = stores ∧ onlyLooks next = true := by
  cases served with
  | hit => exact ⟨rfl, rfl⟩
  | failed => exact ⟨rfl, rfl⟩
  | miss absent =>
      rename_i submission found usableFound
      obtain rfl : key = found := Option.some.inj (usable.symm.trans usableFound)
      exact absurd keyed (absent row member)
  | hitAgain => cases looks
  | rejected => cases looks
  | admitted => cases looks
  | stored => cases looks
  | inserted => cases looks
  | refused => cases looks
  | pushed => cases looks
  | unpushed => cases looks
  | marked => cases looks
  | unmarked => cases looks

/-- The situation of a request that started after its key's row was there. -/
def Late (state : State site) (request : R) (key : Str) : Prop :=
  (∃ entry, KeyedEntry state key entry) ∧ onlyLooks (state.requests request) = true

variable [DecidableEq R] [DecidableEq P] [DecidableEq W]

theorem Late.step {event : Event R W} {request : R} {key : Str} (late : Late before request key)
    (usable : (site.request request).usableKey = some key)
    (stepped : before.Stepped event after) : Late after request key := by
  obtain ⟨⟨entry, known⟩, looks⟩ := late
  refine ⟨⟨entry, known.step stepped.effect⟩, ?_⟩
  rcases stepped.requests_eq request with same | ⟨_, _, started⟩ | ⟨now, reply, _, served⟩
  · rw [same]
    exact looks
  · rw [started]
    exact start_onlyLooks usable
  · obtain ⟨row, member, keyed, _⟩ := known.row
    exact (served_onlyLooks served usable member keyed looks).2

theorem Late.stores {event : Event R W} {request : R} {key : Str} (late : Late before request key)
    (usable : (site.request request).usableKey = some key)
    (own : event = .start request ∨ ∃ now reply, event = .request request now reply)
    (stepped : before.Stepped event after) : after.stores = before.stores := by
  obtain ⟨⟨entry, known⟩, looks⟩ := late
  obtain ⟨row, member, keyed, _⟩ := known.row
  rcases own with rfl | ⟨now, reply, rfl⟩
  · cases stepped with
    | started => rfl
  · cases stepped with
    | requested served => exact (served_onlyLooks served usable member keyed looks).1

end Latecomers

section Results

variable {R P W Image : Type} {site : Deployment R P W Image}

theorem pusher_unique {state : State site} (owned : state.Ownership) {key : Str}
    {call other : R × Reply} (member : call ∈ state.pushCalls)
    (memberOther : other ∈ state.pushCalls)
    (usable : (site.request call.1).usableKey = some key)
    (usableOther : (site.request other.1).usableKey = some key) : call.1 = other.1 := by
  obtain ⟨entry, known, sameId, _⟩ := keyed_of_inserted (owned.pushCalled call member).2 usable
  obtain ⟨entryOther, knownOther, sameIdOther, _⟩ :=
    keyed_of_inserted (owned.pushCalled other memberOther).2 usableOther
  obtain ⟨row, rowMember, keyed, rfl⟩ := known.row
  obtain ⟨rowOther, rowMemberOther, keyedOther, rfl⟩ := knownOther.row
  obtain rfl := JobsTable.eq_of_key rowMember rowMemberOther keyed keyedOther
  exact site.fresh (sameId.symm.trans sameIdOther)

private theorem length_le_one_of_pairwise {α : Type} {apart : α → α → Prop} {items : List α}
    (distinct : items.Pairwise apart)
    (never : ∀ left ∈ items, ∀ right ∈ items, ¬ apart left right) : items.length ≤ 1 := by
  match items with
  | [] => exact Nat.zero_le 1
  | [_] => exact Nat.le_refl 1
  | first :: second :: rest =>
      have both := List.rel_of_pairwise_cons distinct List.mem_cons_self
      exact absurd both
        (never first List.mem_cons_self second (List.mem_cons_of_mem _ List.mem_cons_self))

theorem rows_at_most_one (table : JobsTable) (key : Str) :
    (table.rows.filter (fun row => row.idempotencyKey = some key)).length ≤ 1 := by
  apply length_le_one_of_pairwise (table.distinct.filter _)
  intro left member right memberRight separate
  rw [List.mem_filter, decide_eq_true_iff] at member memberRight
  exact separate (.inr ⟨member.2.trans memberRight.2.symm, by
    rw [memberRight.2]
    exact Option.some_ne_none key⟩)

theorem pushes_at_most_one {state : State site} (owned : state.Ownership) (key : Str) :
    (state.pushCalls.filter
      (fun call => (site.request call.1).usableKey = some key)).length ≤ 1 := by
  apply length_le_one_of_pairwise ((List.pairwise_map.mp owned.pushCalledOnce).filter _)
  intro call member other memberOther different
  rw [List.mem_filter, decide_eq_true_iff] at member memberOther
  exact different (pusher_unique owned member.1 memberOther.1 member.2 memberOther.2)

variable [DecidableEq R] [DecidableEq P] [DecidableEq W]

theorem requests_agree {state : State site} (reached : (machine site).Reachable anything state)
    (key : Str) : Agreement state key := by
  have owned := State.reachable_ownership reached
  have answered := answered_of_reachable reached
  refine ⟨rows_at_most_one _ key, pushes_at_most_one owned key, ?_, ?_, ?_⟩
  · intro request jobId status pipeline usable ended
    obtain ⟨entry, known, rfl, _⟩ :=
      answered.accepted request key jobId status pipeline usable ended
    obtain ⟨row, member, keyed, rfl⟩ := known.row
    exact ⟨row, member, keyed, rfl⟩
  · intro request outcome usable ended row member keyed
    have only {entry : JobRow} (known : KeyedEntry state key entry) : row.submission = entry := by
      obtain ⟨other, memberOther, keyedOther, rfl⟩ := known.row
      rw [JobsTable.eq_of_key member memberOther keyed keyedOther]
    constructor
    · intro different accepted
      obtain ⟨jobId, status, pipeline, rfl⟩ := answered.returned request outcome ended accepted
      obtain ⟨entry, known, _, sameHash⟩ :=
        answered.accepted request key jobId status pipeline usable ended
      exact different ((congrArg JobRow.idempotencyRequestHash (only known)).trans sameHash)
    · intro same refused
      obtain ⟨entry, known, different⟩ :=
        answered.refused request key outcome usable ended refused
      exact different ((congrArg JobRow.idempotencyRequestHash (only known)).symm.trans same)
  · intro request usable waiting ⟨row, member, keyed⟩ later reaches event own next stepped
    have late : Late later request key :=
      reaches.preserves (fun current => Late current request key)
        (fun kept _ taken => kept.step usable (State.step_cases taken))
        ⟨⟨_, KeyedEntry.of_row member keyed⟩, by rw [waiting]; rfl⟩
    exact late.stores usable own (State.step_cases stepped)

/-- The retry of a request whose row is there, before either is answered. -/
theorem requests_agree_retried :
    ∃ state : State smallSite, (state.requests true).hasEnded = false ∧
      state.stores.jobs.rows.length = 1 ∧ Agreement state (str "order-7") := by
  refine ⟨(machine smallSite).finalState anything
    (.start false :: List.replicate 4 (.request false 0 .answered)), ?_, ?_,
    requests_agree (.finalState _) _⟩ <;> decide +kernel

end Results

end ImagePipeline.Properties.Idempotency
