/-
Admission control. The length check and the push are three calls apart, so the
invariant counts, for each queue, its ids together with the API processes that
have passed the check for it and have not pushed yet.
-/

import ImagePipeline.Cluster.Ownership
import Mathlib.Data.Fintype.Card

namespace ImagePipeline.Properties.Admission

open Common
open Cluster
open Api.CreateJob (Routed Phase)
open Library (Machine FifoLog)

section Definitions

variable {R P W Image : Type} {site : Deployment R P W Image}

def Occupied (state : State site) : Prop :=
  ∀ request, (state.requests request).active = true →
    state.running (site.process request) = some request

/-- The process is between a successful length check for the queue and its
push. -/
def Admitting (state : State site) (name : QueueName) (process : P) : Prop :=
  ∃ request, site.process request = process ∧
    (state.requests request).admitted? = some name

open Classical in
/-- The number of pushes the queue still has to expect. -/
noncomputable def expected [Fintype P] (state : State site) (name : QueueName) : Nat :=
  (Finset.univ.filter (Admitting state name)).card

end Definitions

section Requests

variable {runtime : Runtime} {request : Api.CreateJob.Request} {maxQueueLength : Nat}
  {jobId : JobId} {stores after : Stores} {now : Timestamp} {reply : Reply}
  {phase next : Phase runtime request}

/-- What a request's call means for admission: it may give up, it may be
admitted, or it makes its push. -/
inductive Move (maxQueueLength : Nat) (stores : Stores) :
    Phase runtime request → Stores → Phase runtime request → Prop where
  | neutral {phase next : Phase runtime request} {after : Stores}
      (queues : after.queues = stores.queues)
      (kept : ∀ name, next.admitted? = some name → phase.admitted? = some name) :
      Move maxQueueLength stores phase after next
  | admitted {routed : Routed runtime request}
      (room : (stores.queues routed.target).items.length < maxQueueLength) :
      Move maxQueueLength stores (.checkLength routed) stores (.uploadImage routed)
  | pushed {routed : Routed runtime request} {after : Stores} {next : Phase runtime request}
      (released : next.admitted? = none)
      (grown : (after.queues routed.target).items.length ≤
        (stores.queues routed.target).items.length + 1)
      (others : ∀ name, name ≠ routed.target → after.queues name = stores.queues name) :
      Move maxQueueLength stores (.push routed) after next

private theorem released_of_pastPush {phase : Phase runtime request}
    (past : phase.pastPush = true) : phase.admitted? = none := by
  cases phase with
  | uploadImage routed => cases past
  | insertRow routed => cases past
  | push routed => cases past
  | _ => rfl

theorem request_move
    (served : Api.CreateJob.Served maxQueueLength jobId stores now phase reply after next) :
    Move maxQueueLength stores phase after next := by
  cases served with
  | hit => exact .neutral rfl nofun
  | hitAgain => exact .neutral rfl nofun
  | failed => exact .neutral rfl nofun
  | rejected => exact .neutral rfl nofun
  | refused => exact .neutral rfl nofun
  | unmarked => exact .neutral rfl nofun
  | marked =>
      refine .neutral rfl fun name admitted => ?_
      cases reply <;> cases admitted
  | miss absent =>
      rename_i submission key usable
      refine .neutral rfl fun name admitted => ?_
      rcases Phase.route_cases submission with ⟨routed, _, next⟩ | ⟨raised, _, next⟩ <;>
        (rw [next] at admitted; cases admitted)
  | admitted room => exact .admitted room
  | stored took =>
      refine .neutral rfl fun name admitted => ?_
      cases reply with
      | answered => exact admitted
      | raised fault applied => cases admitted
  | inserted took accepted =>
      rename_i routed jobs
      refine .neutral rfl fun name admitted => ?_
      cases reply with
      | answered => exact admitted
      | raised fault applied =>
          rw [Reply.result, Phase.afterInsert_fault] at admitted
          cases admitted
  | pushed took =>
      rename_i routed
      apply Move.pushed (released_of_pastPush (Phase.afterPush_pastPush _ _ _))
      · rw [Stores.setQueue_same, FifoLog.push_items, List.length_cons]
      · exact fun name different => Stores.setQueue_other _ _ different
  | unpushed =>
      exact .pushed (released_of_pastPush (Phase.afterPush_pastPush _ _ _)) (Nat.le_succ _)
        (fun _ _ => rfl)

end Requests

section Steps

variable {R P W Image : Type} {site : Deployment R P W Image} {before after : State site}

theorem Occupied.initial : Occupied (State.initial site) := by
  intro request active
  cases active

theorem Occupied.unique {state : State site} (occupied : Occupied state) {left right : R}
    (same : site.process left = site.process right)
    (activeLeft : (state.requests left).active = true)
    (activeRight : (state.requests right).active = true) : left = right := by
  have runningLeft := occupied left activeLeft
  rw [same, occupied right activeRight] at runningLeft
  exact (Option.some.inj runningLeft).symm

theorem not_hasEnded_of_active {runtime : Runtime} {request : Api.CreateJob.Request}
    {phase : Phase runtime request} (active : phase.active = true) : phase.hasEnded = false := by
  cases phase with
  | ended outcome => cases active
  | _ => rfl

theorem active_of_served {runtime : Runtime} {request : Api.CreateJob.Request}
    {maxQueueLength : Nat} {jobId : JobId} {stores storesAfter : Stores} {now : Timestamp}
    {reply : Reply} {phase next : Phase runtime request}
    (served : Api.CreateJob.Served maxQueueLength jobId stores now phase reply storesAfter next) :
    phase.active = true := by
  cases served with
  | failed early =>
      cases phase with
      | waiting => cases early
      | ended outcome => cases early
      | _ => rfl
  | _ => rfl

private theorem admitting_of_update [DecidableEq R] (before phases : State site) {request : R}
    {next : Phase site.runtime (site.request request)} {name : QueueName}
    (same : phases.requests = Function.update before.requests request next)
    (kept : next.admitted? = some name → (before.requests request).admitted? = some name)
    (process : P) (admitting : Admitting phases name process) :
    Admitting before name process := by
  obtain ⟨owner, rfl, admitted⟩ := admitting
  refine ⟨owner, rfl, ?_⟩
  rw [same] at admitted
  by_cases equal : owner = request
  · subst equal
    rw [Function.update_self] at admitted
    exact kept admitted
  · rw [Function.update_of_ne equal] at admitted
    exact admitted

variable [DecidableEq R] [DecidableEq P]

theorem Occupied.started {request : R} (occupied : Occupied before)
    (free : before.running (site.process request) = none) :
    Occupied (before.afterStart request) := by
  intro other active
  by_cases same : other = request
  · subst other
    rw [State.afterStart_same] at active
    have notEnded := not_hasEnded_of_active active
    simp only [State.afterStart, notEnded, Bool.false_eq_true, if_false, Function.update_self]
  · rw [before.afterStart_other request other same] at active
    have running := occupied other active
    have elsewhere : site.process other ≠ site.process request := by
      intro together
      rw [together, free] at running
      cases running
    simp only [State.afterStart]
    split
    · exact running
    · rw [Function.update_of_ne elsewhere]
      exact running

theorem Occupied.requested {request : R} {reply : Reply} {stores : Stores}
    {next : Phase site.runtime (site.request request)} (occupied : Occupied before)
    (active : (before.requests request).active = true) :
    Occupied (before.afterRequest request reply stores next) := by
  intro other activeAfter
  by_cases same : other = request
  · subst same
    rw [State.afterRequest_same] at activeAfter
    have notEnded := not_hasEnded_of_active activeAfter
    simp only [State.afterRequest, notEnded, Bool.false_eq_true, if_false]
    exact occupied _ active
  · rw [before.afterRequest_other request other reply stores next same] at activeAfter
    have elsewhere : site.process other ≠ site.process request :=
      fun together => same (occupied.unique together activeAfter active)
    simp only [State.afterRequest]
    split
    · rw [Function.update_of_ne elsewhere]
      exact occupied other activeAfter
    · exact occupied other activeAfter

theorem not_admitting_of_released (occupied : Occupied before) {request : R} {reply : Reply}
    {stores : Stores} {next : Phase site.runtime (site.request request)} {name : QueueName}
    (active : (before.requests request).active = true) (released : next.admitted? = none) :
    ¬ Admitting (before.afterRequest request reply stores next) name (site.process request) := by
  intro ⟨owner, together, admitted⟩
  by_cases same : owner = request
  · subst same
    rw [State.afterRequest_same, released] at admitted
    cases admitted
  · rw [before.afterRequest_other request owner reply stores next same] at admitted
    exact same (occupied.unique together (Phase.active_of_admitted admitted) active)

theorem Occupied.step [DecidableEq W] {event : Event R W} (occupied : Occupied before)
    (stepped : before.Stepped event after) : Occupied after := by
  cases stepped with
  | started waiting free => exact occupied.started free
  | requested served => exact occupied.requested (active_of_served served)
  | worked => exact occupied
  | stopped => exact occupied
  | restarted => exact occupied

end Steps

section Counting

variable {R P W Image : Type} [Fintype P] {site : Deployment R P W Image}
  {before after : State site}

theorem expected_le (state : State site) (name : QueueName) :
    expected state name ≤ Fintype.card P := Finset.card_le_univ _

theorem expected_initial (name : QueueName) : expected (State.initial site) name = 0 := by
  classical
  unfold expected
  rw [Finset.card_eq_zero, Finset.filter_eq_empty_iff]
  intro process _ ⟨request, _, admitted⟩
  cases admitted

theorem expected_mono {name : QueueName}
    (fewer : ∀ process, Admitting after name process → Admitting before name process) :
    expected after name ≤ expected before name := by
  classical
  exact Finset.card_le_card (Finset.monotone_filter_right _ fun process _ => fewer process)

theorem expected_lt {name : QueueName} {process : P}
    (fewer : ∀ process, Admitting after name process → Admitting before name process)
    (admitting : Admitting before name process) (released : ¬ Admitting after name process) :
    expected after name < expected before name := by
  classical
  refine Finset.card_lt_card (Finset.ssubset_iff_of_subset
    (Finset.monotone_filter_right _ fun process _ => fewer process) |>.mpr ⟨process, ?_, ?_⟩)
  · exact Finset.mem_filter.mpr ⟨Finset.mem_univ _, admitting⟩
  · exact fun member => released (Finset.mem_filter.mp member).2

end Counting

section Bound

variable {R P W Image : Type} [Fintype P] {site : Deployment R P W Image}
  {before after : State site}

/-- The queue still has room for the pushes it has to expect, up to one request
for each process but one. -/
def Roomy (state : State site) : Prop :=
  ∀ name, (state.queue name).items.length + expected state name + 1 ≤
    site.maxQueueLength + Fintype.card P

theorem Roomy.initial (positive : 1 ≤ site.maxQueueLength) : Roomy (State.initial site) := by
  intro name
  have empty : ((State.initial site).queue name).items.length = 0 := rfl
  rw [expected_initial, empty]
  omega

theorem start_not_admitted {runtime : Runtime} {request : Api.CreateJob.Request}
    {name : QueueName} : (Phase.start runtime request).admitted? ≠ some name := by
  unfold Phase.start
  split
  · nofun
  · split
    · nofun
    · rename_i pipeline parsed _
      rcases Phase.route_cases ⟨pipeline, parsed⟩ with ⟨_, _, next⟩ | ⟨_, _, next⟩ <;>
        rw [next] <;> nofun

variable [DecidableEq R] [DecidableEq P]

theorem Roomy.requested {request : R} {reply : Reply} {stores : Stores}
    {next : Phase site.runtime (site.request request)} (roomy : Roomy before)
    (occupied : Occupied before)
    (move : Move site.maxQueueLength before.stores (before.requests request) stores next) :
    Roomy (before.afterRequest request reply stores next) := by
  intro name
  have earlier := roomy name
  have fewer (kept : next.admitted? = some name →
      (before.requests request).admitted? = some name) :=
    admitting_of_update before (before.afterRequest request reply stores next) rfl kept
  rw [State.queue, State.afterRequest_stores]
  generalize current : before.requests request = phase at move fewer
  cases move with
  | neutral queues kept =>
      have count := expected_mono (fewer (kept name))
      rw [queues]
      change ((before.queue name).items.length + _ + 1 ≤ _)
      omega
  | admitted room =>
      rename_i routed
      by_cases same : name = routed.target
      · subst name
        have count := expected_le
          (before.afterRequest request reply before.stores (.uploadImage routed)) routed.target
        omega
      · have count := expected_mono (fewer (fun admitted =>
          absurd (Option.some.inj admitted).symm same))
        change ((before.queue name).items.length + _ + 1 ≤ _)
        omega
  | pushed released grown others =>
      rename_i routed
      have kept : next.admitted? = some name →
          (Phase.push routed).admitted? = some name := by
        intro admitted
        rw [released] at admitted
        cases admitted
      by_cases same : name = routed.target
      · subst name
        have admitting : Admitting before routed.target (site.process request) :=
          ⟨request, rfl, by rw [current]; rfl⟩
        have active : (before.requests request).active = true := by rw [current]; rfl
        have count := expected_lt (fewer kept) admitting
          (not_admitting_of_released occupied active released)
        change (before.stores.queues routed.target).items.length + _ + 1 ≤ _ at earlier
        omega
      · have count := expected_mono (fewer kept)
        rw [others name same]
        change ((before.queue name).items.length + _ + 1 ≤ _)
        omega

variable [DecidableEq W]

theorem worker_length (name : QueueName) {queueName : QueueName} {stores storesAfter : Stores}
    {phase next : Worker.RunOnce.Phase}
    (effect : Worker.RunOnce.Effect queueName stores phase storesAfter next) :
    (storesAfter.queues name).items.length ≤ (stores.queues name).items.length := by
  cases effect with
  | quiet _ queues => rw [queues]
  | popped popped =>
      by_cases same : name = queueName
      · subst name
        rw [Stores.setQueue_same, (FifoLog.pop?_spec popped).1, List.length_append]
        exact Nat.le_add_right _ _
      · rw [Stores.setQueue_other _ _ same]

theorem Roomy.step {event : Event R W} (roomy : Roomy before) (occupied : Occupied before)
    (stepped : before.Stepped event after) : Roomy after := by
  cases stepped with
  | started =>
      rename_i request waiting free
      intro name
      have earlier := roomy name
      have fewer (process : P) (admitting : Admitting (before.afterStart request) name process) :
          Admitting before name process :=
        admitting_of_update before _ rfl (fun admitted => absurd admitted start_not_admitted)
          process admitting
      have count := expected_mono fewer
      change (before.queue name).items.length + _ + 1 ≤ _
      omega
  | requested served => exact roomy.requested occupied (request_move served)
  | worked served =>
      rename_i worker reply stores next
      intro name
      have earlier := roomy name
      have length := worker_length name served.effect
      change (stores.queues name).items.length + expected before name + 1 ≤ _
      change (before.stores.queues name).items.length + _ + 1 ≤ _ at earlier
      omega
  | stopped => exact roomy
  | restarted => exact roomy

end Bound

section Results

variable {R P W Image : Type} [DecidableEq R] [DecidableEq P] [DecidableEq W] [Fintype P]
  {site : Deployment R P W Image}

structure Bounded (state : State site) : Prop where
  length : ∀ name,
    (state.queue name).items.length ≤ site.maxQueueLength + Fintype.card P - 1
  oneProcess : Fintype.card P = 1 → ∀ name,
    (state.queue name).items.length ≤ site.maxQueueLength
  /-- Whoever is rejected is rejected for the length of its own target queue. -/
  ownQueue : ∀ event next request outcome, state.step event = some next →
    next.requests request = .ended outcome → state.requests request ≠ .ended outcome →
    outcome.statusCode = 429 →
      ∃ name, (site.request request).target? site.runtime = some name ∧
        site.maxQueueLength ≤ (state.queue name).items.length

/-- No interleaving of the API processes overfills a queue by more than one
request for each further process. -/
theorem queues_stay_bounded (positive : 1 ≤ site.maxQueueLength)
    (inhabited : 1 ≤ Fintype.card P) {state : State site}
    (reached : (machine site).Reachable anything state) : Bounded state := by
  have both : Occupied state ∧ Roomy state :=
    reached.invariant (fun state => Occupied state ∧ Roomy state)
      ⟨.initial, .initial positive⟩
      (fun _ kept _ stepped =>
        have cases := State.step_cases stepped
        ⟨kept.1.step cases, kept.2.step kept.1 cases⟩)
  have roomy := both.2
  refine ⟨fun name => ?_, fun single name => ?_, ?_⟩
  · have room := roomy name
    omega
  · have room := roomy name
    omega
  · intro event next request outcome stepped ended fresh refused
    rcases (State.step_cases stepped).ended ended with
      earlier | ⟨_, broken⟩ | ⟨now, reply, _, ending⟩
    · exact absurd earlier fresh
    · rw [refused] at broken
      rcases broken with wrong | wrong <;> cases wrong
    · obtain ⟨routed, _, full⟩ := ending.of_rejected refused
      exact ⟨routed.target, routed.target?_eq, full⟩

/-- One process, one place in the queue, and it is taken. -/
theorem queues_stay_bounded_full :
    ∃ state : State smallSite, (state.queue .jobsDefault).items = [firstJob] ∧ Bounded state := by
  refine ⟨(machine smallSite).finalState anything
    (.start false :: List.replicate 5 (.request false 0 .answered)), ?_,
    queues_stay_bounded (by decide) (by decide) (.finalState _)⟩
  decide +kernel

end Results

end ImagePipeline.Properties.Admission
