/-
The front end of `POST /jobs` as one function of the form field: parse, then
choose the queue. It should answer everything outside its grammar with 400 and
everything inside it with a queue. Exceptions of three kinds get past it: the
missing hash of an operation, the integer of an infinite count, and the double
of a charge that is too large.
-/

import ImagePipeline.Api.PipelineGrammar

namespace ImagePipeline.Properties.FrontEnd

open Common Api

/-- `parse_pipeline`, then `is_heavy_pipeline` on what it returns. -/
def chooseQueue (runtime : Runtime) (form : Option Json) : Except Exn QueueName :=
  match parsePipeline runtime form with
  | .error raised => .error raised
  | .ok pipeline => (isHeavyPipeline runtime pipeline).map targetQueue

/-- What the front end promises for one form field. -/
structure Sound (runtime : Runtime) (form : Option Json) : Prop where
  answers : (∃ queue, chooseQueue runtime form = .ok queue) ∨
    ∃ detail, chooseQueue runtime form = .error (.httpException 400 detail)
  accepts : (∃ queue, chooseQueue runtime form = .ok queue) ↔ InGrammar form

/-- The first integer that is too large for a double. -/
def doubleRange : Nat := 2 ^ 1024 - 2 ^ 970

/-- What a step's count is multiplied by before it becomes a double. In a region
that is nothing: there the cost is a double already. -/
def factor (step : PipelineStep) : Nat :=
  if hasRegion step.parameters then 1 else operationCost step.operation

/-- A step whose count has an integer and whose charge has a double. -/
structure Chargeable (runtime : Runtime) (step : PipelineStep) : Prop where
  finite : ∀ negative, step.parameters.getD (str "repeat") (.int 1) ≠ .float (.infinity negative)
  inRange : ∀ times, runtime.toInt (step.parameters.getD (str "repeat") (.int 1)) = .ok times →
    factor step * times < doubleRange

/-- The form fields for which the promise is kept. -/
structure Answerable (runtime : Runtime) (form : Option Json) : Prop where
  hashable : ∀ before item after, form = some (.arr (before ++ item :: after)) →
    (∀ earlier ∈ before, WellFormed earlier) → ¬ Unhashable item
  chargeable : InGrammar form → ∀ items, form = some (.arr items) → ∀ item ∈ items,
    ∀ step, Denotes item step → Chargeable runtime step

variable {runtime : Runtime}

theorem ten_lt_doubleRange : 10 < doubleRange := by decide +kernel

theorem toDouble_ok_iff {value : Int} (positive : 0 ≤ value) :
    (∃ double, toDouble value = .ok double) ↔ value < doubleRange := by
  have same : value.natAbs < doubleRange ↔ value < doubleRange := by omega
  rw [← same]
  unfold toDouble doubleRange
  split
  · rename_i small
    exact ⟨fun _ => small, fun _ => ⟨_, rfl⟩⟩
  · rename_i large
    constructor
    · rintro ⟨_, impossible⟩
      cases impossible
    · exact fun small => absurd small large

theorem chargedRepeat_cases (runtime : Runtime) (parameters : Dict) :
    (∃ times, runtime.toInt (parameters.getD (str "repeat") (.int 1)) = .ok times ∧
      chargedRepeat runtime parameters = .ok (max 1 times)) ∨
    (∃ raised, runtime.toInt (parameters.getD (str "repeat") (.int 1)) = .error raised ∧
      raised ≠ .overflowError ∧ chargedRepeat runtime parameters = .ok 1) ∨
    ∃ negative, parameters.getD (str "repeat") (.int 1) = .float (.infinity negative) ∧
      chargedRepeat runtime parameters = .error .overflowError := by
  unfold chargedRepeat
  cases converted : runtime.toInt (parameters.getD (str "repeat") (.int 1)) with
  | ok times => exact .inl ⟨times, rfl, rfl⟩
  | error raised =>
      rcases runtime.toInt_error_cases converted with rfl | rfl | ⟨rfl, negative, infinite⟩
      · exact .inr (.inl ⟨_, rfl, nofun, rfl⟩)
      · exact .inr (.inl ⟨_, rfl, nofun, rfl⟩)
      · exact .inr (.inr ⟨negative, infinite, rfl⟩)

theorem factor_range (step : PipelineStep) : 1 ≤ factor step ∧ factor step ≤ 10 := by
  have cost := operationCost_range step.operation
  unfold factor
  split <;> omega

theorem stepCost_ok_of_counted {step : PipelineStep} {times : Int} (positive : 1 ≤ times)
    (counted : chargedRepeat runtime step.parameters = .ok times) :
    (∃ cost, stepCost runtime step = .ok cost) ↔
      factor step * times < doubleRange := by
  have cost := (operationCost_range step.operation).1
  unfold stepCost factor
  rw [counted]
  cases hasRegion step.parameters with
  | true =>
      rw [if_pos rfl, Nat.cast_one, one_mul, ← toDouble_ok_iff (by omega)]
      simp only [if_true]
      cases toDouble times with
      | error raised =>
          constructor <;>
            (rintro ⟨_, impossible⟩; cases impossible)
      | ok double => exact ⟨fun _ => ⟨double, rfl⟩, fun _ => ⟨_, rfl⟩⟩
  | false =>
      have nonneg : 0 ≤ (operationCost step.operation : Int) * times :=
        Int.mul_nonneg (by omega) (by omega)
      rw [if_neg Bool.false_ne_true, ← toDouble_ok_iff nonneg]
      simp only [Bool.false_eq_true, if_false]

theorem stepCost_ok_iff {step : PipelineStep} :
    (∃ cost, stepCost runtime step = .ok cost) ↔ Chargeable runtime step := by
  rcases chargedRepeat_cases runtime step.parameters with
    ⟨times, converted, counted⟩ | ⟨raised, failed, caught, counted⟩ | ⟨negative, infinite, counted⟩
  · have range := factor_range step
    have small := ten_lt_doubleRange
    rw [stepCost_ok_of_counted (le_max_left 1 times) counted]
    constructor
    · intro below
      constructor
      · intro negative infinite
        rw [infinite] at converted
        cases converted
      · intro made same
        obtain rfl : times = made := Except.ok.inj (converted.symm.trans same)
        have more : (factor step : Int) * times ≤ factor step * max 1 times :=
          Int.mul_le_mul_of_nonneg_left (le_max_right 1 times) (by omega)
        exact lt_of_le_of_lt more below
    · intro chargeable
      have below := chargeable.inRange times converted
      rcases le_total 1 times with many | few
      · rw [max_eq_right many]
        exact below
      · rw [max_eq_left few]
        omega
  · have range := factor_range step
    have small := ten_lt_doubleRange
    rw [stepCost_ok_of_counted (le_refl 1) counted]
    constructor
    · intro _
      constructor
      · intro negative infinite
        rw [infinite] at failed
        exact caught (Except.error.inj failed).symm
      · intro made same
        rw [failed] at same
        cases same
    · intro _
      omega
  · constructor
    · rintro ⟨cost, charged⟩
      unfold stepCost at charged
      rw [counted] at charged
      cases charged
    · intro chargeable
      exact absurd infinite (chargeable.finite negative)

theorem totalCost_ok_iff {pipeline : List PipelineStep} :
    (∃ total, totalCost runtime pipeline = .ok total) ↔
      ∀ step ∈ pipeline, Chargeable runtime step := by
  have sums (start : Rat) : (∃ total, addCosts runtime start pipeline = .ok total) ↔
      ∀ step ∈ pipeline, Chargeable runtime step := by
    induction pipeline generalizing start with
    | nil => exact ⟨fun _ step member => absurd member List.not_mem_nil, fun _ => ⟨start, rfl⟩⟩
    | cons step rest ih =>
        rw [List.forall_mem_cons, ← stepCost_ok_iff]
        unfold addCosts
        cases charged : stepCost runtime step with
        | error raised =>
            constructor
            · rintro ⟨_, impossible⟩
              cases impossible
            · rintro ⟨⟨_, impossible⟩, _⟩
              cases impossible
        | ok cost =>
            constructor
            · exact fun summed => ⟨⟨cost, rfl⟩, (ih _).mp summed⟩
            · exact fun both => (ih _).mpr both.2
  exact sums 0

theorem isHeavyPipeline_ok_iff {pipeline : List PipelineStep} :
    (∃ heavy, isHeavyPipeline runtime pipeline = .ok heavy) ↔
      ∀ step ∈ pipeline, Chargeable runtime step := by
  rw [← totalCost_ok_iff]
  unfold isHeavyPipeline
  cases totalCost runtime pipeline with
  | error raised =>
      constructor <;>
        (rintro ⟨_, impossible⟩; cases impossible)
  | ok total => exact ⟨fun _ => ⟨total, rfl⟩, fun _ => ⟨_, rfl⟩⟩

theorem chooseQueue_ok_iff {form : Option Json} :
    (∃ queue, chooseQueue runtime form = .ok queue) ↔
      ∃ pipeline, parsePipeline runtime form = .ok pipeline ∧
        ∀ step ∈ pipeline, Chargeable runtime step := by
  unfold chooseQueue
  cases parsed : parsePipeline runtime form with
  | error raised =>
      constructor
      · rintro ⟨_, impossible⟩
        cases impossible
      · rintro ⟨_, impossible, _⟩
        cases impossible
  | ok pipeline =>
      have classified : (∃ queue, (isHeavyPipeline runtime pipeline).map targetQueue = .ok queue) ↔
          ∃ heavy, isHeavyPipeline runtime pipeline = .ok heavy := by
        cases isHeavyPipeline runtime pipeline with
        | error raised =>
            constructor <;>
              (rintro ⟨_, impossible⟩; cases impossible)
        | ok heavy => exact ⟨fun _ => ⟨heavy, rfl⟩, fun _ => ⟨_, rfl⟩⟩
      simp only [classified, isHeavyPipeline_ok_iff]
      constructor
      · exact fun chargeable => ⟨pipeline, rfl, chargeable⟩
      · rintro ⟨_, same, chargeable⟩
        cases same
        exact chargeable

/-- The front end keeps its promise for exactly these form fields: no element
before which all is well has an operation without a hash, and, if the whole list
is in the grammar, every step can be charged. -/
theorem sound_iff (runtime : Runtime) (form : Option Json) :
    Sound runtime form ↔ Answerable runtime form := by
  constructor
  · intro sound
    constructor
    · intro before item after same wellFormed unhashable
      have failed : chooseQueue runtime form = .error .typeError := by
        rw [chooseQueue, parsePipeline_typeError_iff.mpr
          ⟨before, item, after, same, wellFormed, unhashable⟩]
      rcases sound.answers with ⟨queue, impossible⟩ | ⟨detail, impossible⟩ <;>
        (rw [failed] at impossible; cases impossible)
    · intro inGrammar items same item member step denotes
      obtain ⟨pipeline, accepted, chargeable⟩ := chooseQueue_ok_iff.mp (sound.accepts.mpr inGrammar)
      obtain ⟨_, rfl, _, itemwise⟩ := parsePipeline_ok_iff.mp accepted
      cases same
      obtain ⟨parsed, present, other⟩ := Library.exists_mem_of_mem_left itemwise member
      rw [denotes.unique other]
      exact chargeable parsed present
  · intro answerable
    cases parsed : parsePipeline runtime form with
    | error raised =>
        have outside : ¬ InGrammar form := by
          intro inside
          have accepted : ∃ pipeline, parsePipeline runtime form = .ok pipeline :=
            parsePipeline_accepts_iff.mpr inside
          rw [parsed] at accepted
          obtain ⟨_, impossible⟩ := accepted
          cases impossible
        have refused : ¬ ∃ queue, chooseQueue runtime form = .ok queue := by
          rw [chooseQueue_ok_iff, parsed]
          rintro ⟨_, impossible, _⟩
          cases impossible
        refine ⟨.inr ?_, fun accepted => absurd accepted refused,
          fun inside => absurd inside outside⟩
        rcases parsePipeline_error_cases parsed with rfl | ⟨detail, rfl⟩
        · obtain ⟨before, item, after, same, wellFormed, unhashable⟩ :=
            parsePipeline_typeError_iff.mp parsed
          exact absurd unhashable (answerable.hashable before item after same wellFormed)
        · exact ⟨detail, by rw [chooseQueue, parsed]; rfl⟩
    | ok pipeline =>
        have inside : InGrammar form := parsePipeline_accepts_iff.mp ⟨pipeline, parsed⟩
        obtain ⟨items, rfl, _, itemwise⟩ := parsePipeline_ok_iff.mp parsed
        have accepted : ∃ queue, chooseQueue runtime (some (.arr items)) = .ok queue := by
          refine chooseQueue_ok_iff.mpr ⟨pipeline, parsed, ?_⟩
          intro step present
          obtain ⟨item, member, denotes⟩ := Library.exists_mem_of_mem_right itemwise present
          exact answerable.chargeable inside items rfl item member step denotes
        exact ⟨.inl accepted, fun _ => inside, fun _ => accepted⟩

/-! ### Three form fields -/

def blurInList : Json := .arr [.obj [(str "operation", .arr [.str (str "blur")])]]

def blurForever : Json :=
  .arr [.obj [(str "operation", .str (str "blur")),
    (str "parameters", .obj [(str "repeat", .float (.infinity false))])]]

/-- Two requests that are answered with 500. -/
theorem blurForever_unsound :
    ¬ Sound plainRuntime (some blurForever) ∧ ¬ Sound plainRuntime (some blurInList) := by
  have overflows : chooseQueue plainRuntime (some blurForever) = .error .overflowError := by
    decide +kernel
  have unhashable : chooseQueue plainRuntime (some blurInList) = .error .typeError := by
    decide +kernel
  constructor
  · rintro ⟨⟨queue, impossible⟩ | ⟨detail, impossible⟩, _⟩ <;>
      (rw [overflows] at impossible; cases impossible)
  · rintro ⟨⟨queue, impossible⟩ | ⟨detail, impossible⟩, _⟩ <;>
      (rw [unhashable] at impossible; cases impossible)

end ImagePipeline.Properties.FrontEnd
