/-
The API charges a pipeline for at least the work a worker does on it. Both
decode the same parameters on their own; they meet in the number of repeats
(at least one charged, at most as many made) and in the test for a region.
-/

import ImagePipeline.Worker.ImageProcessor
import Mathlib.Tactic.Linarith
import Mathlib.Tactic.Ring
import Mathlib.Tactic.Positivity

namespace ImagePipeline.Properties.Charging

open Common Api Worker
open Library (Traced)
open Library.Traced (CostsAtMost)

/-- The charge for one call: the cost of its operation, a fifth in a region. -/
def callWeight (call : Call) : Rat :=
  operationCost call.operation * (if call.regional then 1 / 5 else 1)

def callsWeight (calls : List Call) : Rat := (calls.map callWeight).sum

theorem fifth_le_callWeight (call : Call) : 1 / 5 ≤ callWeight call := by
  have cost : (1 : Rat) ≤ operationCost call.operation := by
    exact_mod_cast (operationCost_range call.operation).1
  unfold callWeight
  split <;> linarith

theorem length_le_callsWeight (calls : List Call) :
    (calls.length : Rat) / 5 ≤ callsWeight calls := by
  unfold callsWeight
  induction calls with
  | nil => simp
  | cons call rest ih =>
      have head := fifth_le_callWeight call
      rw [List.map_cons, List.sum_cons, List.length_cons]
      push_cast
      linarith

variable {Image : Type} {runtime : Runtime} {imaging : Imaging Image}

theorem callProcessing_costs (call : Call) (processing : ProcessingFunction) (parameters : Dict)
    (image : Image) :
    CostsAtMost callWeight (callProcessing imaging call processing parameters image)
      (callWeight call) := by
  rw [← add_zero (callWeight call)]
  exact CostsAtMost.bind (.record call)
    (fun _ => .afterTrace (fun calls => imaging.apply calls processing image parameters))
    (le_refl 0)

/-- Whatever is read before the one call, and whatever is done after it, is
free. -/
theorem applyToRegion_costs (call : Call) (processing : ProcessingFunction) (parameters : Dict)
    (region : Json) (image : Image) :
    CostsAtMost callWeight
      (applyToRegion runtime imaging call processing parameters region image)
      (callWeight call) := by
  have free {Value : Type} {bound : Rat} {result : Except Exn Value}
      {next : Value → Traced Call Exn Image} (nonneg : 0 ≤ bound)
      (costs : ∀ value, CostsAtMost callWeight (next value) bound) :
      CostsAtMost callWeight (Traced.ofExcept result >>= next) bound :=
    (CostsAtMost.bind (CostsAtMost.ofExcept result) costs nonneg).mono (le_of_eq (zero_add bound))
  have nonneg : 0 ≤ callWeight call := by linarith [fifth_le_callWeight call]
  unfold applyToRegion
  refine free nonneg fun x => free nonneg fun y => free nonneg fun width =>
    free nonneg fun height => free nonneg fun imageCopy => free nonneg fun croppedRegion => ?_
  refine (CostsAtMost.bind (callProcessing_costs call processing parameters croppedRegion)
    (fun processedRegion => CostsAtMost.ofExcept _) (le_refl 0)).mono ?_
  exact le_of_eq (add_zero _)

theorem repeatTimes_costs {Value : Type} {body : Value → Traced Call Exn Value} {bound : Rat}
    (nonneg : 0 ≤ bound) (costs : ∀ value, CostsAtMost callWeight (body value) bound)
    (times : Nat) (value : Value) :
    CostsAtMost callWeight (repeatTimes body times value) (times * bound) := by
  induction times generalizing value with
  | zero => exact (CostsAtMost.pure value).mono (by simp)
  | succ times ih =>
      refine (CostsAtMost.bind (costs value) ih (by positivity)).mono (le_of_eq ?_)
      push_cast
      ring

/-- The weight of one call made for a step. -/
def stepWeight (step : PipelineStep) : Rat :=
  callWeight ⟨step.operation, hasRegion step.parameters⟩

theorem stepWeight_pos (step : PipelineStep) : 0 < stepWeight step := by
  have fifth := fifth_le_callWeight ⟨step.operation, hasRegion step.parameters⟩
  unfold stepWeight
  linarith

/-- The worker reads the region after popping `repeat`; the API reads it from
the full dict. -/
theorem region_after_repeat (parameters : Dict) :
    (parameters.erase (str "repeat")).getD (str "region") .null =
      parameters.getD (str "region") .null := by
  apply Dict.getD_erase_ne
  rw [Ne, str_inj]
  decide

theorem applyOnce_costs (step : PipelineStep) (processing : ProcessingFunction)
    (parameters : Dict) (image : Image) :
    CostsAtMost callWeight
      (applyOnce runtime imaging step.operation processing parameters
        ((step.parameters.erase (str "repeat")).getD (str "region") .null) image)
      (stepWeight step) := by
  rw [region_after_repeat]
  unfold stepWeight hasRegion applyOnce
  cases step.parameters.getD (str "region") .null with
  | null => exact callProcessing_costs _ _ _ _
  | bool value => exact applyToRegion_costs _ _ _ _ _
  | int value => exact applyToRegion_costs _ _ _ _ _
  | float value => exact applyToRegion_costs _ _ _ _ _
  | str text => exact applyToRegion_costs _ _ _ _ _
  | arr items => exact applyToRegion_costs _ _ _ _ _
  | obj fields => exact applyToRegion_costs _ _ _ _ _

theorem toDouble_ok {value : Int} {double : Rat} (converted : toDouble value = .ok double) :
    double = value := by
  unfold toDouble at converted
  split at converted
  · cases converted
    rfl
  · cases converted

/-- The charge for a step is its call weight times the charged repeats. -/
theorem stepCost_eq {step : PipelineStep} {cost : Rat}
    (charged : stepCost runtime step = .ok cost) :
    ∃ times, chargedRepeat runtime step.parameters = .ok times ∧
      cost = times * stepWeight step := by
  unfold stepCost at charged
  cases counted : chargedRepeat runtime step.parameters with
  | error raised => rw [counted] at charged; cases charged
  | ok times =>
      rw [counted] at charged
      refine ⟨times, rfl, ?_⟩
      unfold stepWeight callWeight
      cases regional : hasRegion step.parameters with
      | true =>
          simp only [regional, if_true] at charged ⊢
          cases converted : toDouble times with
          | error raised => rw [converted] at charged; cases charged
          | ok factor =>
              rw [converted] at charged
              cases charged
              simp only [toDouble_ok converted]
              ring
      | false =>
          simp only [regional, if_false, Bool.false_eq_true] at charged ⊢
          rw [toDouble_ok charged]
          push_cast
          ring

theorem chargedRepeat_pos {parameters : Dict} {times : Int}
    (counted : chargedRepeat runtime parameters = .ok times) : 1 ≤ times := by
  unfold chargedRepeat at counted
  split at counted
  · cases counted
    exact le_max_left _ _
  · cases counted
    exact le_refl 1
  · cases counted
    exact le_refl 1
  · cases counted

theorem toNat_le_chargedRepeat {parameters : Dict} {made times : Int}
    (converted : runtime.toInt (parameters.getD (str "repeat") (.int 1)) = .ok made)
    (counted : chargedRepeat runtime parameters = .ok times) : (made.toNat : Int) ≤ times := by
  unfold chargedRepeat at counted
  rw [converted] at counted
  cases counted
  omega

theorem applyPipelineStep_costs {step : PipelineStep} {cost : Rat}
    (charged : stepCost runtime step = .ok cost) (image : Image) :
    CostsAtMost callWeight (applyPipelineStep runtime imaging step image) cost := by
  obtain ⟨times, counted, rfl⟩ := stepCost_eq charged
  have weight := stepWeight_pos step
  have positive : (1 : Rat) ≤ times := by exact_mod_cast chargedRepeat_pos counted
  have nonneg : 0 ≤ times * stepWeight step := by positivity
  unfold applyPipelineStep
  cases operationRegistry.lookup step.operation with
  | none => exact (CostsAtMost.ofExcept _).mono nonneg
  | some processing =>
      cases converted : runtime.toInt (step.parameters.getD (str "repeat") (.int 1)) with
      | error raised =>
          intro trace
          exact ⟨[], (List.append_nil trace).symm, nonneg⟩
      | ok made =>
          have fewer : ((made.toNat : Int) : Rat) ≤ times := by
            exact_mod_cast toNat_le_chargedRepeat converted counted
          refine CostsAtMost.mono (repeatTimes_costs (le_of_lt weight)
            (applyOnce_costs step processing _) made.toNat image) ?_
          exact mul_le_mul_of_nonneg_right (by exact_mod_cast fewer) (le_of_lt weight)

theorem stepCost_nonneg {step : PipelineStep} {cost : Rat}
    (charged : stepCost runtime step = .ok cost) : 0 ≤ cost := by
  obtain ⟨times, counted, rfl⟩ := stepCost_eq charged
  have positive : (1 : Rat) ≤ times := by exact_mod_cast chargedRepeat_pos counted
  have weight := stepWeight_pos step
  positivity

theorem le_addCosts {pipeline : List PipelineStep} {start total : Rat}
    (charged : addCosts runtime start pipeline = .ok total) : start ≤ total := by
  induction pipeline generalizing start with
  | nil => cases charged; exact le_refl _
  | cons step rest ih =>
      unfold addCosts at charged
      cases first : stepCost runtime step with
      | error raised => rw [first] at charged; cases charged
      | ok cost =>
          rw [first] at charged
          have later := ih charged
          linarith [stepCost_nonneg first]

theorem applySteps_costs {pipeline : List PipelineStep} {start total : Rat}
    (charged : addCosts runtime start pipeline = .ok total) (image : Image) :
    CostsAtMost callWeight (applySteps runtime imaging pipeline image) (total - start) := by
  induction pipeline generalizing start image with
  | nil =>
      cases charged
      exact (CostsAtMost.pure image).mono (by linarith)
  | cons step rest ih =>
      unfold addCosts at charged
      cases first : stepCost runtime step with
      | error raised => rw [first] at charged; cases charged
      | ok cost =>
          rw [first] at charged
          have later := le_addCosts charged
          refine (CostsAtMost.bind (applyPipelineStep_costs first image)
            (fun next => ih charged next) (by linarith)).mono ?_
          linarith

theorem processImage_costs {pipeline : List PipelineStep} {total : Rat}
    (charged : totalCost runtime pipeline = .ok total) (image : Image) :
    CostsAtMost callWeight (processImage runtime imaging image pipeline) total := by
  have nonneg : 0 ≤ total := le_addCosts charged
  have steps (decoded : Image) :
      CostsAtMost callWeight (applySteps runtime imaging pipeline decoded) total := by
    rw [← sub_zero total]
    exact applySteps_costs charged decoded
  exact (CostsAtMost.bind (CostsAtMost.ofExcept _) steps nonneg).mono (le_of_eq (zero_add total))

/-- The calls `process_image` makes, whether it returns or raises. -/
def processingCalls (runtime : Runtime) (imaging : Imaging Image) (image : Image)
    (pipeline : List PipelineStep) : List Call :=
  (processImage runtime imaging image pipeline []).2

/-- The API never under-charges: on a pipeline that it classifies, whatever the
processing functions do and wherever the worker stops, the calls made weigh at
most the charged total; a pipeline sent to the default queue makes calls worth
less than the threshold, and fewer than 200 of them. The pipeline need not even
be one that `parsePipeline` accepts. -/
theorem calls_weigh_at_most_charge (runtime : Runtime) (imaging : Imaging Image)
    (image : Image) (pipeline : List PipelineStep) (heavy : Bool)
    (classified : isHeavyPipeline runtime pipeline = .ok heavy) :
    ∃ total, totalCost runtime pipeline = .ok total ∧
      callsWeight (processingCalls runtime imaging image pipeline) ≤ total ∧
      (targetQueue heavy = .jobsDefault →
        callsWeight (processingCalls runtime imaging image pipeline) < heavyCostThreshold ∧
          (processingCalls runtime imaging image pipeline).length < 200) := by
  unfold isHeavyPipeline at classified
  cases charged : totalCost runtime pipeline with
  | error raised => rw [charged] at classified; cases classified
  | ok total =>
      rw [charged] at classified
      have costs : CostsAtMost callWeight (processImage runtime imaging image pipeline) total :=
        processImage_costs charged image
      obtain ⟨added, appended, weighs⟩ := costs []
      rw [List.nil_append] at appended
      have bounded : callsWeight (processingCalls runtime imaging image pipeline) ≤ total := by
        unfold processingCalls callsWeight
        rw [appended]
        exact weighs
      refine ⟨total, rfl, bounded, ?_⟩
      intro light
      cases heavy with
      | true => cases light
      | false =>
          have below : ¬ heavyCostThreshold ≤ total :=
            of_decide_eq_false (Except.ok.inj classified)
          have weight : callsWeight (processingCalls runtime imaging image pipeline) <
              heavyCostThreshold := lt_of_le_of_lt bounded (not_le.mp below)
          refine ⟨weight, ?_⟩
          have count := length_le_callsWeight (processingCalls runtime imaging image pipeline)
          unfold heavyCostThreshold at weight
          have small : ((processingCalls runtime imaging image pipeline).length : Rat) < 200 := by
            linarith
          exact_mod_cast small

/-- The pixel blurred three times in a region, with the count given as text. -/
theorem calls_weigh_at_most_charge_region :
    let runtime : Runtime :=
      { intOfStr := fun text => if text = str "3" then some 3 else none
        floatRepr := fun _ => []
        sha256 := fun _ => [] }
    let area : Json := .obj [(str "x", .int 0), (str "y", .int 0), (str "width", .int 1),
      (str "height", .int 1)]
    let pipeline : List PipelineStep :=
      [⟨str "blur", [(str "repeat", .str (str "3")), (str "region", area)]⟩]
    (processingCalls runtime pixelImaging () pipeline).length = 3 ∧
      ∃ total, totalCost runtime pipeline = .ok total ∧
        callsWeight (processingCalls runtime pixelImaging () pipeline) ≤ total := by
  intro runtime area pipeline
  have classified : isHeavyPipeline runtime pipeline = .ok false := by decide +kernel
  obtain ⟨total, charged, weighs, _⟩ :=
    calls_weigh_at_most_charge runtime pixelImaging () pipeline false classified
  exact ⟨by decide +kernel, total, charged, weighs⟩

end ImagePipeline.Properties.Charging
