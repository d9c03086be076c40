/-
Computations that may raise and that leave a trace of what they did. The trace
survives an exception, so that costs can be charged for an interrupted run. A
bound on the cost of a computation is derived along its structure: one rule for
each way of building it.
-/

import Mathlib.Algebra.BigOperators.Group.List.Basic
import Mathlib.Algebra.Order.Monoid.Defs

namespace ImagePipeline.Library

def Traced (κ ε α : Type) : Type := List κ → Except ε α × List κ

namespace Traced

variable {κ ε α β : Type}

instance : Monad (Traced κ ε) where
  pure value := fun trace => (.ok value, trace)
  bind first next := fun trace =>
    match first trace with
    | (.ok value, later) => next value later
    | (.error raised, later) => (.error raised, later)

def ofExcept (result : Except ε α) : Traced κ ε α := fun trace => (result, trace)

def record (event : κ) : Traced κ ε Unit := fun trace => (.ok (), trace ++ [event])

/-- A step whose result may depend on everything done before it. -/
def afterTrace (result : List κ → Except ε α) : Traced κ ε α := fun trace => (result trace, trace)

theorem bind_ok {first : Traced κ ε α} {next : α → Traced κ ε β} {trace later : List κ}
    {value : α} (succeeded : first trace = (.ok value, later)) :
    (first >>= next) trace = next value later := by
  change (match first trace with
    | (.ok value, later) => next value later
    | (.error raised, later) => (.error raised, later)) = _
  rw [succeeded]

theorem bind_of_ok {first : Traced κ ε α} {next : α → Traced κ ε β} {trace : List κ} {value : α}
    (returned : (first trace).1 = .ok value) :
    (first >>= next) trace = next value (first trace).2 :=
  bind_ok (Prod.ext returned rfl)

theorem bind_error {first : Traced κ ε α} {next : α → Traced κ ε β} {trace later : List κ}
    {raised : ε} (failed : first trace = (.error raised, later)) :
    (first >>= next) trace = (.error raised, later) := by
  change (match first trace with
    | (.ok value, later) => next value later
    | (.error raised, later) => (.error raised, later)) = _
  rw [failed]

theorem bind_eq_ok {first : Traced κ ε α} {next : α → Traced κ ε β} {trace later : List κ}
    {result : β} (returned : (first >>= next) trace = (.ok result, later)) :
    ∃ value middle, first trace = (.ok value, middle) ∧
      next value middle = (.ok result, later) := by
  cases ran : first trace with
  | mk ending middle =>
      cases ending with
      | ok value => exact ⟨value, middle, rfl, (bind_ok ran).symm.trans returned⟩
      | error raised =>
          rw [bind_error ran] at returned
          cases returned

@[simp] theorem pure_apply (value : α) (trace : List κ) :
    (pure value : Traced κ ε α) trace = (.ok value, trace) := rfl

@[simp] theorem record_apply (event : κ) (trace : List κ) :
    (Traced.record event : Traced κ ε Unit) trace = (.ok (), trace ++ [event]) := rfl

@[simp] theorem record_bind (event : κ) (next : Unit → Traced κ ε β) (trace : List κ) :
    (Traced.record event >>= next) trace = next () (trace ++ [event]) := rfl

@[simp] theorem ofExcept_apply (result : Except ε α) (trace : List κ) :
    (Traced.ofExcept result : Traced κ ε α) trace = (result, trace) := rfl

@[simp] theorem ofExcept_ok_bind (value : α) (next : α → Traced κ ε β) :
    (Traced.ofExcept (.ok value) >>= next) = next value := rfl

@[simp] theorem ofExcept_error_bind (raised : ε) (next : α → Traced κ ε β) :
    (Traced.ofExcept (.error raised) >>= next) = Traced.ofExcept (.error raised) := rfl

theorem bind_return (computation : Traced κ ε α) :
    (computation >>= fun value => pure value) = computation := by
  funext trace
  cases ran : computation trace with
  | mk ending later =>
      cases ending with
      | ok value => exact bind_ok ran
      | error raised => exact bind_error ran

theorem bind_bind {γ : Type} (first : Traced κ ε α) (second : α → Traced κ ε β)
    (third : β → Traced κ ε γ) :
    (first >>= second >>= third) = first >>= fun value => second value >>= third := by
  funext trace
  cases ran : first trace with
  | mk ending later =>
      cases ending with
      | ok value =>
          have started : (first >>= second) trace = second value later := bind_ok ran
          rw [bind_ok ran]
          change (match (first >>= second) trace with
            | (.ok value, later) => third value later
            | (.error raised, later) => (.error raised, later)) = _
          rw [started]
          rfl
      | error raised =>
          have stopped : (first >>= second) trace = (.error raised, later) := bind_error ran
          exact (bind_error stopped).trans (bind_error ran).symm

instance : LawfulMonad (Traced κ ε) :=
  LawfulMonad.mk' _ bind_return (fun _ _ => rfl) bind_bind

/-- Whatever happened before, the computation returns. -/
def Returns (computation : Traced κ ε α) : Prop :=
  ∀ trace, ∃ value later, computation trace = (.ok value, later)

/-- Whatever happened before, the computation raises. -/
def Raises (computation : Traced κ ε α) : Prop :=
  ∀ trace, ∃ raised later, computation trace = (.error raised, later)

theorem Returns.pure (value : α) : Returns (Pure.pure value : Traced κ ε α) :=
  fun trace => ⟨value, trace, rfl⟩

theorem Returns.record (event : κ) : Returns (Traced.record event : Traced κ ε Unit) :=
  fun trace => ⟨(), trace ++ [event], rfl⟩

theorem Returns.ofExcept {result : Except ε α} {value : α} (returned : result = .ok value) :
    Returns (Traced.ofExcept result : Traced κ ε α) :=
  fun trace => ⟨value, trace, by rw [returned]; rfl⟩

theorem Raises.ofExcept {result : Except ε α} {raised : ε} (failed : result = .error raised) :
    Raises (Traced.ofExcept result : Traced κ ε α) :=
  fun trace => ⟨raised, trace, by rw [failed]; rfl⟩

theorem Returns.bind {first : Traced κ ε α} {next : α → Traced κ ε β} (atFirst : Returns first)
    (atNext : ∀ value, Returns (next value)) : Returns (first >>= next) := by
  intro trace
  obtain ⟨value, later, ran⟩ := atFirst trace
  rw [bind_ok ran]
  exact atNext value later

theorem Raises.bind {first : Traced κ ε α} {next : α → Traced κ ε β}
    (atNext : ∀ value, Raises (next value)) : Raises (first >>= next) := by
  intro trace
  cases ran : first trace with
  | mk result later =>
      cases result with
      | error raised => exact ⟨raised, later, bind_error ran⟩
      | ok value =>
          rw [bind_ok ran]
          exact atNext value later

theorem Raises.bind_first {first : Traced κ ε α} {next : α → Traced κ ε β}
    (atFirst : Raises first) : Raises (first >>= next) := by
  intro trace
  obtain ⟨raised, later, ran⟩ := atFirst trace
  exact ⟨raised, later, bind_error ran⟩

section Events

/-- Whatever happened before, the computation only appends events with the
property to the trace. -/
def RecordsOnly (allowed : κ → Prop) (computation : Traced κ ε α) : Prop :=
  ∀ trace, ∃ added, (computation trace).2 = trace ++ added ∧ ∀ event ∈ added, allowed event

variable {allowed : κ → Prop}

theorem RecordsOnly.ofExcept (result : Except ε α) :
    RecordsOnly allowed (Traced.ofExcept result : Traced κ ε α) :=
  fun trace => ⟨[], (List.append_nil trace).symm, fun _ none => absurd none List.not_mem_nil⟩

theorem RecordsOnly.pure (value : α) : RecordsOnly allowed (Pure.pure value : Traced κ ε α) :=
  RecordsOnly.ofExcept (.ok value)

theorem RecordsOnly.record {event : κ} (fine : allowed event) :
    RecordsOnly allowed (Traced.record event : Traced κ ε Unit) := by
  intro trace
  refine ⟨[event], rfl, ?_⟩
  intro other member
  rw [List.mem_singleton.mp member]
  exact fine

theorem RecordsOnly.bind {first : Traced κ ε α} {next : α → Traced κ ε β}
    (atFirst : RecordsOnly allowed first) (atNext : ∀ value, RecordsOnly allowed (next value)) :
    RecordsOnly allowed (first >>= next) := by
  intro trace
  obtain ⟨added, appended, fine⟩ := atFirst trace
  cases ran : first trace with
  | mk result middle =>
      rw [ran] at appended
      cases result with
      | error raised =>
          rw [bind_error ran]
          exact ⟨added, appended, fine⟩
      | ok value =>
          obtain ⟨more, appendedMore, fineMore⟩ := atNext value middle
          rw [bind_ok ran]
          refine ⟨added ++ more, ?_, ?_⟩
          · simp only at appended
            rw [appendedMore, appended, List.append_assoc]
          · intro event member
            rcases List.mem_append.mp member with earlier | later
            · exact fine event earlier
            · exact fineMore event later

/-- A pure step that raises ends the trace; otherwise its value is known. -/
theorem RecordsOnly.ofExcept_bind {result : Except ε α} {next : α → Traced κ ε β}
    (atNext : ∀ value, result = .ok value → RecordsOnly allowed (next value)) :
    RecordsOnly allowed (Traced.ofExcept result >>= next) := by
  cases result with
  | error raised => exact RecordsOnly.ofExcept (.error raised)
  | ok value => exact atNext value rfl

theorem RecordsOnly.mono {computation : Traced κ ε α} {wider : κ → Prop}
    (records : RecordsOnly allowed computation) (weaker : ∀ event, allowed event → wider event) :
    RecordsOnly wider computation := by
  intro trace
  obtain ⟨added, appended, fine⟩ := records trace
  exact ⟨added, appended, fun event member => weaker event (fine event member)⟩

theorem RecordsOnly.from_empty {computation : Traced κ ε α}
    (records : RecordsOnly allowed computation) : ∀ event ∈ (computation []).2, allowed event := by
  obtain ⟨added, appended, fine⟩ := records []
  rw [appended]
  exact fine

end Events

section Cost

variable {M : Type} [AddCommMonoid M] [PartialOrder M]

/-- Whatever happened before, the computation only appends to the trace, and
what it appends weighs at most `bound`. -/
def CostsAtMost (weight : κ → M) (computation : Traced κ ε α) (bound : M) : Prop :=
  ∀ trace, ∃ added, (computation trace).2 = trace ++ added ∧ (added.map weight).sum ≤ bound

variable {weight : κ → M}

theorem CostsAtMost.ofExcept (result : Except ε α) :
    CostsAtMost weight (Traced.ofExcept result : Traced κ ε α) 0 := by
  intro trace
  exact ⟨[], (List.append_nil trace).symm, le_of_eq rfl⟩

theorem CostsAtMost.pure (value : α) :
    CostsAtMost weight (Pure.pure value : Traced κ ε α) 0 :=
  CostsAtMost.ofExcept (.ok value)

theorem CostsAtMost.afterTrace (result : List κ → Except ε α) :
    CostsAtMost weight (Traced.afterTrace result) 0 := by
  intro trace
  exact ⟨[], (List.append_nil trace).symm, le_of_eq rfl⟩

theorem CostsAtMost.record (event : κ) :
    CostsAtMost weight (Traced.record event : Traced κ ε Unit) (weight event) := by
  intro trace
  refine ⟨[event], rfl, ?_⟩
  rw [List.map_singleton, List.sum_singleton]

theorem CostsAtMost.mono {computation : Traced κ ε α} {bound larger : M}
    (costs : CostsAtMost weight computation bound) (le : bound ≤ larger) :
    CostsAtMost weight computation larger := by
  intro trace
  obtain ⟨added, appended, weighs⟩ := costs trace
  exact ⟨added, appended, weighs.trans le⟩

/-- If the first part raises, the second part is charged but not run. -/
theorem CostsAtMost.bind [IsOrderedAddMonoid M] {first : Traced κ ε α}
    {next : α → Traced κ ε β} {bound later : M}
    (firstCosts : CostsAtMost weight first bound)
    (nextCosts : ∀ value, CostsAtMost weight (next value) later) (nonneg : 0 ≤ later) :
    CostsAtMost weight (first >>= next) (bound + later) := by
  intro trace
  obtain ⟨added, appended, weighs⟩ := firstCosts trace
  cases ran : first trace with
  | mk result middle =>
      rw [ran] at appended
      cases result with
      | error raised =>
          rw [bind_error ran]
          exact ⟨added, appended, weighs.trans (le_add_of_nonneg_right nonneg)⟩
      | ok value =>
          obtain ⟨more, appendedMore, weighsMore⟩ := nextCosts value middle
          rw [bind_ok ran]
          refine ⟨added ++ more, ?_, ?_⟩
          · rw [appendedMore]
            simp only at appended
            rw [appended, List.append_assoc]
          · rw [List.map_append, List.sum_append]
            exact add_le_add weighs weighsMore

end Cost

end Traced

end ImagePipeline.Library
