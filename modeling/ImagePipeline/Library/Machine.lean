/-
Partial machines driven by events. An event that is impossible in a state has
no successor, and an environment predicate says which events may happen at all.
Safety is proved once per machine: an invariant that the start state has and
every permitted event keeps holds in every reachable state.
-/

import Mathlib.Data.List.Induction

namespace ImagePipeline.Library

structure Machine (σ ε : Type) where
  initial : σ
  step : σ → ε → Option σ

namespace Machine

variable {σ ε : Type} (machine : Machine σ ε) (permits : σ → ε → Bool)

/-- A run is a list of events; it exists only if every event is permitted and
possible where it happens. -/
def run : σ → List ε → Option σ
  | state, [] => some state
  | state, event :: rest =>
      if permits state event then (machine.step state event).bind (fun next => run next rest)
      else none

def Reaches (start finish : σ) : Prop :=
  ∃ events, machine.run permits start events = some finish

def Reachable (state : σ) : Prop :=
  machine.Reaches permits machine.initial state

variable {machine permits}

theorem run_cons {start finish : σ} {event : ε} {rest : List ε} :
    machine.run permits start (event :: rest) = some finish ↔
      permits start event = true ∧
        ∃ next, machine.step start event = some next ∧
          machine.run permits next rest = some finish := by
  by_cases permitted : permits start event = true
  · simp only [run, permitted, if_true, true_and, Option.bind_eq_some_iff]
  · simp only [run, permitted, if_false, false_and, reduceCtorEq]

theorem run_append {start finish : σ} {first second : List ε} :
    machine.run permits start (first ++ second) = some finish ↔
      ∃ middle, machine.run permits start first = some middle ∧
        machine.run permits middle second = some finish := by
  induction first generalizing start with
  | nil => simp only [List.nil_append, run, Option.some.injEq, exists_eq_left']
  | cons event rest ih =>
      simp only [List.cons_append, run_cons]
      constructor
      · intro ⟨permitted, next, stepped, later⟩
        obtain ⟨middle, before, after⟩ := ih.mp later
        exact ⟨middle, ⟨permitted, next, stepped, before⟩, after⟩
      · intro ⟨middle, ⟨permitted, next, stepped, before⟩, after⟩
        exact ⟨permitted, next, stepped, ih.mpr ⟨middle, before, after⟩⟩

theorem Reaches.refl (state : σ) : machine.Reaches permits state state := ⟨[], rfl⟩

theorem Reaches.trans {start middle finish : σ} (first : machine.Reaches permits start middle)
    (second : machine.Reaches permits middle finish) : machine.Reaches permits start finish := by
  obtain ⟨before, ranBefore⟩ := first
  obtain ⟨after, ranAfter⟩ := second
  exact ⟨before ++ after, run_append.mpr ⟨middle, ranBefore, ranAfter⟩⟩

theorem Reaches.single {start finish : σ} {event : ε} (permitted : permits start event = true)
    (stepped : machine.step start event = some finish) :
    machine.Reaches permits start finish :=
  ⟨[event], run_cons.mpr ⟨permitted, finish, stepped, rfl⟩⟩

theorem Reaches.snoc {start middle finish : σ} {event : ε}
    (first : machine.Reaches permits start middle) (permitted : permits middle event = true)
    (stepped : machine.step middle event = some finish) :
    machine.Reaches permits start finish :=
  first.trans (.single permitted stepped)

theorem Reaches.mono {start finish : σ} {wider : σ → ε → Bool}
    (weaker : ∀ state event, permits state event = true → wider state event = true)
    (reached : machine.Reaches permits start finish) : machine.Reaches wider start finish := by
  obtain ⟨events, ran⟩ := reached
  refine ⟨events, ?_⟩
  induction events generalizing start with
  | nil => exact ran
  | cons event rest ih =>
      obtain ⟨permitted, next, stepped, later⟩ := run_cons.mp ran
      exact run_cons.mpr ⟨weaker _ _ permitted, next, stepped, ih later⟩

/-- A property that permitted steps keep is kept by a whole run. -/
theorem Reaches.preserves {start finish : σ} (keeps : σ → Prop)
    (step : ∀ {before event after}, keeps before → permits before event = true →
      machine.step before event = some after → keeps after)
    (reached : machine.Reaches permits start finish) (atStart : keeps start) :
    keeps finish := by
  obtain ⟨events, ran⟩ := reached
  induction events generalizing start with
  | nil =>
      obtain rfl : start = finish := Option.some.inj ran
      exact atStart
  | cons event rest ih =>
      obtain ⟨permitted, next, stepped, later⟩ := run_cons.mp ran
      exact ih (step atStart permitted stepped) later

/-- The invariant rule. The step may use that its state is reachable, so that
invariants proved earlier can be used in the proofs of later ones. -/
theorem Reachable.invariant (holds : σ → Prop) (initially : holds machine.initial)
    (step : ∀ {before event after}, machine.Reachable permits before → holds before →
      permits before event = true → machine.step before event = some after → holds after)
    {state : σ} (reached : machine.Reachable permits state) : holds state := by
  have both : machine.Reachable permits state ∧ holds state :=
    Reaches.preserves (fun current => machine.Reachable permits current ∧ holds current)
      (fun kept permitted stepped =>
        ⟨kept.1.snoc permitted stepped, step kept.1 kept.2 permitted stepped⟩)
      reached ⟨.refl _, initially⟩
  exact both.2

/-- The state after the given events, or the initial state if they are no run. -/
def finalState (machine : Machine σ ε) (permits : σ → ε → Bool) (events : List ε) : σ :=
  (machine.run permits machine.initial events).getD machine.initial

theorem run_finalState {events : List ε}
    (ran : (machine.run permits machine.initial events).isSome = true) :
    machine.run permits machine.initial events = some (machine.finalState permits events) := by
  obtain ⟨finish, ends⟩ := Option.isSome_iff_exists.mp ran
  rw [Machine.finalState, ends, Option.getD_some]

theorem Reachable.finalState (events : List ε) :
    machine.Reachable permits (machine.finalState permits events) := by
  unfold Machine.finalState
  cases ran : machine.run permits machine.initial events with
  | none => exact .refl _
  | some finish => exact ⟨events, ran⟩

theorem Reaches.finalState {first second : List ε}
    (ran : (machine.run permits machine.initial (first ++ second)).isSome = true) :
    machine.Reaches permits (machine.finalState permits first)
      (machine.finalState permits (first ++ second)) := by
  obtain ⟨finish, ends⟩ := Option.isSome_iff_exists.mp ran
  obtain ⟨middle, before, after⟩ := run_append.mp ends
  unfold Machine.finalState
  rw [ends, before]
  exact ⟨second, after⟩

theorem Reachable.reaches {start finish : σ} (reached : machine.Reachable permits start)
    (later : machine.Reaches permits start finish) : machine.Reachable permits finish :=
  Reaches.trans reached later

/-- The run passes the state, at one of its ends or in between. -/
def Passes (machine : Machine σ ε) (permits : σ → ε → Bool) (start : σ) (events : List ε)
    (state : σ) : Prop :=
  ∃ first, first <+: events ∧ machine.run permits start first = some state

/-- The run takes the event in the state. -/
def Takes (machine : Machine σ ε) (permits : σ → ε → Bool) (start : σ) (events : List ε)
    (state : σ) (event : ε) : Prop :=
  ∃ first, first ++ [event] <+: events ∧ machine.run permits start first = some state

theorem run_snoc {start finish : σ} {first : List ε} {event : ε} :
    machine.run permits start (first ++ [event]) = some finish ↔
      ∃ middle, machine.run permits start first = some middle ∧
        permits middle event = true ∧ machine.step middle event = some finish := by
  rw [run_append]
  constructor
  · intro ⟨middle, before, after⟩
    obtain ⟨permitted, next, taken, done⟩ := run_cons.mp after
    obtain rfl : next = finish := Option.some.inj done
    exact ⟨middle, before, permitted, taken⟩
  · intro ⟨middle, before, permitted, taken⟩
    exact ⟨middle, before, run_cons.mpr ⟨permitted, finish, taken, rfl⟩⟩

theorem Takes.head (start : σ) (event : ε) (rest : List ε) :
    machine.Takes permits start (event :: rest) start event :=
  ⟨[], List.prefix_append [event] rest, rfl⟩

theorem Takes.cons {start next state : σ} {first event : ε} {rest : List ε}
    (permitted : permits start first = true) (stepped : machine.step start first = some next)
    (takes : machine.Takes permits next rest state event) :
    machine.Takes permits start (first :: rest) state event := by
  obtain ⟨earlier, isPrefix, ran⟩ := takes
  exact ⟨first :: earlier, (List.prefix_cons_inj first).mpr isPrefix,
    run_cons.mpr ⟨permitted, next, stepped, ran⟩⟩

theorem takes_snoc {start middle state : σ} {first : List ε} {last event : ε}
    (ran : machine.run permits start first = some middle) :
    machine.Takes permits start (first ++ [last]) state event ↔
      machine.Takes permits start first state event ∨ state = middle ∧ event = last := by
  constructor
  · intro ⟨earlier, isPrefix, before⟩
    rcases List.prefix_concat_iff.mp isPrefix with whole | shorter
    · obtain ⟨rfl, same⟩ := List.append_inj' whole rfl
      exact .inr ⟨Option.some.inj (before.symm.trans ran), List.singleton_inj.mp same⟩
    · exact .inl ⟨earlier, shorter, before⟩
  · rintro (⟨earlier, isPrefix, before⟩ | ⟨rfl, rfl⟩)
    · exact ⟨earlier, isPrefix.trans (List.prefix_append _ _), before⟩
    · exact ⟨first, List.prefix_rfl, ran⟩

/-- If every step that the run takes meets a condition under which the property
is kept, every state that it passes has the property. -/
theorem Passes.invariant {start state : σ} {events : List ε} (holds : σ → Prop)
    {meets : σ → ε → Prop} (passes : machine.Passes permits start events state)
    (initially : holds start)
    (step : ∀ {before event after}, machine.Reaches permits start before → holds before →
      meets before event → permits before event = true →
        machine.step before event = some after → holds after)
    (met : ∀ state event, machine.Takes permits start events state event → meets state event) :
    holds state := by
  obtain ⟨first, isPrefix, ran⟩ := passes
  induction first using List.reverseRecOn generalizing state with
  | nil =>
      obtain rfl : start = state := Option.some.inj ran
      exact initially
  | append_singleton first event ih =>
      obtain ⟨middle, before, permitted, taken⟩ := run_snoc.mp ran
      exact step ⟨first, before⟩ (ih ((List.prefix_append first [event]).trans isPrefix) before)
        (met middle event ⟨first, isPrefix, before⟩) permitted taken

theorem Takes.next {start finish state : σ} {events : List ε} {event : ε}
    (ran : machine.run permits start events = some finish)
    (takes : machine.Takes permits start events state event) :
    permits state event = true ∧ ∃ after, machine.step state event = some after ∧
      machine.Passes permits start events after := by
  obtain ⟨first, ⟨rest, rfl⟩, before⟩ := takes
  obtain ⟨after, ranNext, _⟩ := run_append.mp ran
  obtain ⟨middle, ranFirst, permitted, taken⟩ := run_snoc.mp ranNext
  obtain rfl := Option.some.inj (before.symm.trans ranFirst)
  exact ⟨permitted, after, taken, first ++ [event], List.prefix_append _ _, ranNext⟩

/-! ### Bounded progress

A rank that no step raises and that some kinds of steps lower bounds how many steps
of these kinds a run can take before it gets to its goal.
-/

section Bounded

variable {σ ε : Type}

/-- Where `keeps` holds, every permitted step leads towards the goal: it keeps a
goal that is reached, and else it does not raise the rank, and lowers it if the
step counts. -/
structure Progress (machine : Machine σ ε) (permits : σ → ε → Bool) (keeps goal : σ → Prop)
    (rank : σ → Nat) (counts : ε → Bool) : Prop where
  kept : ∀ {before event after}, keeps before → permits before event = true →
    machine.step before event = some after → keeps after
  stays : ∀ {before event after}, keeps before → goal before → permits before event = true →
    machine.step before event = some after → goal after
  advances : ∀ {before event after}, keeps before → permits before event = true →
    machine.step before event = some after →
    goal after ∨ rank after + (if counts event = true then 1 else 0) ≤ rank before

namespace Progress

variable {machine : Machine σ ε} {permits : σ → ε → Bool} {keeps goal : σ → Prop}
  {rank : σ → Nat} {counts : ε → Bool} {start finish : σ} {events : List ε}

theorem remains (progress : Progress machine permits keeps goal rank counts)
    (ran : machine.run permits start events = some finish) (known : keeps start)
    (there : goal start) : goal finish := by
  have both : keeps finish ∧ goal finish :=
    Reaches.preserves (fun state => keeps state ∧ goal state)
      (fun ⟨known, there⟩ permitted stepped =>
        ⟨progress.kept known permitted stepped, progress.stays known there permitted stepped⟩)
      ⟨events, ran⟩ ⟨known, there⟩
  exact both.2

/-- A run that takes more counted steps than the rank of its start ends at the
goal. -/
theorem reaches (progress : Progress machine permits keeps goal rank counts)
    (ran : machine.run permits start events = some finish) (known : keeps start)
    (enough : rank start < events.countP counts) : goal finish := by
  induction events generalizing start with
  | nil =>
      rw [List.countP_nil] at enough
      omega
  | cons event rest ih =>
      obtain ⟨permitted, next, stepped, later⟩ := run_cons.mp ran
      have knownNext := progress.kept known permitted stepped
      rcases progress.advances known permitted stepped with there | lower
      · exact progress.remains later knownNext there
      · refine ih later knownNext ?_
        rw [List.countP_cons] at enough
        omega

end Progress

end Bounded

/-! ### Records

Recording what is observed of the steps takes no part in the runs, and an invariant
may speak of the record.
-/

section Records

variable {σ ε κ : Type}

/-- The machine whose states carry what was observed so far. -/
def recording (machine : Machine σ ε) (observe : σ → ε → σ → List κ) : Machine (σ × List κ) ε :=
  { initial := (machine.initial, [])
    step := fun state event => (machine.step state.1 event).map
      (fun next => (next, state.2 ++ observe state.1 event next)) }

/-- What may happen does not depend on the record. -/
def unrecorded (permits : σ → ε → Bool) : σ × List κ → ε → Bool :=
  fun state event => permits state.1 event

variable {machine : Machine σ ε} {observe : σ → ε → σ → List κ} {permits : σ → ε → Bool}

theorem recording_step {before after : σ × List κ} {event : ε} :
    (machine.recording observe).step before event = some after ↔
      machine.step before.1 event = some after.1 ∧
        after.2 = before.2 ++ observe before.1 event after.1 := by
  change (machine.step before.1 event).map _ = some after ↔ _
  rw [Option.map_eq_some_iff]
  constructor
  · intro ⟨next, stepped, same⟩
    rw [← same]
    exact ⟨stepped, rfl⟩
  · intro ⟨stepped, appended⟩
    exact ⟨after.1, stepped, Prod.ext rfl appended.symm⟩

theorem reachable_of_recorded {state : σ × List κ}
    (reached : (machine.recording observe).Reachable (unrecorded permits) state) :
    machine.Reachable permits state.1 := by
  have initially : machine.Reachable permits (machine.recording observe).initial.1 := .refl _
  apply reached.invariant (fun current => machine.Reachable permits current.1) initially
  intro before event after _ earlier permitted stepped
  exact earlier.snoc permitted (recording_step.mp stepped).1

/-- The invariant rule for states with their record. -/
theorem recorded_invariant (holds : σ → List κ → Prop) (initially : holds machine.initial [])
    (step : ∀ {before event after record}, machine.Reachable permits before →
      holds before record → permits before event = true →
      machine.step before event = some after →
      holds after (record ++ observe before event after))
    {state : σ × List κ}
    (reached : (machine.recording observe).Reachable (unrecorded permits) state) :
    holds state.1 state.2 := by
  apply reached.invariant (fun current => holds current.1 current.2) initially
  intro before event after recorded earlier permitted stepped
  obtain ⟨taken, appended⟩ := recording_step.mp stepped
  rw [appended]
  exact step (reachable_of_recorded recorded) earlier permitted taken

end Records

end Machine

end ImagePipeline.Library
