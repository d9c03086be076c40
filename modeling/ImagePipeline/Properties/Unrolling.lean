/-
A repeated step and as many copies of it in a row are the same work: for the
worker, which loops over it, and for the API, which multiplies its cost.
-/

import ImagePipeline.Library.Itemwise
import ImagePipeline.Properties.Charging
import ImagePipeline.Properties.FrontEnd
import ImagePipeline.Worker.Operations

namespace ImagePipeline.Properties.Unrolling

open Common Api Worker
open Library (Traced)
open Charging (stepWeight)
open FrontEnd (Chargeable)

/-- The count is left out, or it is a positive integer. -/
def RepeatsPositively (step : PipelineStep) : Prop :=
  step.parameters.get? (str "repeat") = none ∨
    ∃ times, 1 ≤ times ∧ step.parameters.get? (str "repeat") = some (.int times)

def copies (step : PipelineStep) : Nat :=
  match step.parameters.get? (str "repeat") with
  | some (.int times) => times.toNat
  | _ => 1

def withoutRepeat (step : PipelineStep) : PipelineStep :=
  { step with parameters := step.parameters.erase (str "repeat") }

/-- Every step as many times in a row as it is repeated. -/
def unroll (pipeline : List PipelineStep) : List PipelineStep :=
  pipeline.flatMap (fun step => List.replicate (copies step) (withoutRepeat step))

theorem withoutRepeat_repeats (step : PipelineStep) : RepeatsPositively (withoutRepeat step) :=
  .inl (Dict.get?_erase_self _ _)

theorem unroll_repeats {pipeline : List PipelineStep} :
    ∀ step ∈ unroll pipeline, RepeatsPositively step := by
  intro copy member
  obtain ⟨step, _, copied⟩ := List.mem_flatMap.mp member
  rw [List.eq_of_mem_replicate copied]
  exact withoutRepeat_repeats step

theorem copies_withoutRepeat (step : PipelineStep) : copies (withoutRepeat step) = 1 := by
  unfold copies withoutRepeat
  rw [Dict.get?_erase_self]

theorem region_withoutRepeat (step : PipelineStep) :
    (withoutRepeat step).parameters.getD (str "region") .null =
      step.parameters.getD (str "region") .null :=
  Charging.region_after_repeat step.parameters

variable {runtime : Runtime} {step : PipelineStep} {pipeline : List PipelineStep}

theorem RepeatsPositively.counted (repeats : RepeatsPositively step) (runtime : Runtime) :
    runtime.toInt (step.parameters.getD (str "repeat") (.int 1)) = .ok (copies step : Int) ∧
      0 < copies step := by
  unfold copies Dict.getD
  rcases repeats with absent | ⟨times, positive, given⟩
  · rw [absent]
    exact ⟨rfl, Nat.one_pos⟩
  · rw [given]
    constructor
    · change Except.ok times = Except.ok (times.toNat : Int)
      rw [Int.toNat_of_nonneg (by omega)]
    · change 0 < times.toNat
      omega

section Worker

variable {Image : Type} {imaging : Imaging Image}

theorem repeatTimes_raises {raised : Exn} {times : Nat} (positive : 0 < times) (image : Image) :
    repeatTimes (fun _ => (Traced.ofExcept (.error raised) : Traced Call Exn Image)) times image =
      Traced.ofExcept (.error raised) := by
  obtain ⟨more, rfl⟩ : ∃ more, times = more + 1 := ⟨times - 1, by omega⟩
  rfl

/-- One step: the loop over its body is the loop over the step without its
count. An unknown operation raises at the first copy. -/
theorem applySteps_copies (repeats : RepeatsPositively step) (image : Image) :
    applySteps runtime imaging (List.replicate (copies step) (withoutRepeat step)) image =
      applyPipelineStep runtime imaging step image := by
  obtain ⟨counted, positive⟩ := repeats.counted runtime
  have once := ((withoutRepeat_repeats step).counted runtime).1
  rw [copies_withoutRepeat] at once
  rw [applySteps_replicate]
  cases registered : operationRegistry.lookup step.operation with
  | none =>
      have raises (copy : PipelineStep) (same : copy.operation = step.operation) :
          applyPipelineStep runtime imaging copy =
            fun _ => Traced.ofExcept (.error .valueError) := by
        funext image
        unfold applyPipelineStep
        rw [same, registered]
      rw [raises (withoutRepeat step) rfl, raises step rfl]
      exact repeatTimes_raises positive image
  | some processing =>
      have body : applyPipelineStep runtime imaging (withoutRepeat step) =
          applyOnce runtime imaging step.operation processing
            ((step.parameters.erase (str "repeat")).erase (str "region"))
            (step.parameters.getD (str "region") .null) := by
        funext image
        have known : operationRegistry.lookup (withoutRepeat step).operation = some processing :=
          registered
        have looped := applyPipelineStep_ok runtime imaging known once image
        rw [region_withoutRepeat] at looped
        unfold withoutRepeat at looped ⊢
        dsimp only at looped
        rw [looped, Dict.erase_erase]
        exact repeatTimes_one _
      rw [body, applyPipelineStep_ok runtime imaging registered counted, Int.toNat_natCast]

theorem applySteps_unroll (repeats : ∀ step ∈ pipeline, RepeatsPositively step) (image : Image) :
    applySteps runtime imaging (unroll pipeline) image =
      applySteps runtime imaging pipeline image := by
  induction pipeline generalizing image with
  | nil => rfl
  | cons step rest ih =>
      obtain ⟨first, later⟩ := List.forall_mem_cons.mp repeats
      have split : unroll (step :: rest) =
          List.replicate (copies step) (withoutRepeat step) ++ unroll rest := List.flatMap_cons
      rw [split, applySteps_append, applySteps_copies first, funext (ih later)]
      rfl

theorem processImage_unroll (repeats : ∀ step ∈ pipeline, RepeatsPositively step) (image : Image) :
    processImage runtime imaging image (unroll pipeline) =
      processImage runtime imaging image pipeline := by
  unfold processImage
  rw [funext (applySteps_unroll repeats)]

end Worker

section Classification

/-- What `is_heavy_pipeline` adds for a step in exact arithmetic, where no count
is too large. -/
def exactCost (runtime : Runtime) (step : PipelineStep) : Except Exn Rat :=
  (chargedRepeat runtime step.parameters).map (fun times => times * stepWeight step)

def exactTotalCost (runtime : Runtime) (pipeline : List PipelineStep) : Except Exn Rat :=
  (pipeline.mapM (exactCost runtime)).map List.sum

/-- `is_heavy_pipeline` in exact arithmetic. -/
def isHeavyExactly (runtime : Runtime) (pipeline : List PipelineStep) : Except Exn Bool :=
  (exactTotalCost runtime pipeline).map (fun total => decide (heavyCostThreshold ≤ total))

theorem addCosts_exact {start total : Rat} (charged : addCosts runtime start pipeline = .ok total) :
    ∃ costs, pipeline.mapM (exactCost runtime) = .ok costs ∧ total = start + costs.sum := by
  induction pipeline generalizing start with
  | nil =>
      cases charged
      exact ⟨[], rfl, (add_zero _).symm⟩
  | cons step rest ih =>
      unfold addCosts at charged
      cases first : stepCost runtime step with
      | error raised => rw [first] at charged; cases charged
      | ok cost =>
          rw [first] at charged
          obtain ⟨costs, mapped, rfl⟩ := ih charged
          obtain ⟨times, counted, same⟩ := Charging.stepCost_eq first
          have exactly : exactCost runtime step = .ok cost := by
            rw [exactCost, counted, same]
            rfl
          refine ⟨cost :: costs, ?_, ?_⟩
          · rw [Library.mapM_cons_ok exactly, mapped]
            rfl
          · rw [List.sum_cons, add_assoc]

/-- Where the doubles do not overflow, the exact costs decide. -/
theorem isHeavyPipeline_exact {heavy : Bool}
    (classified : isHeavyPipeline runtime pipeline = .ok heavy) :
    isHeavyExactly runtime pipeline = .ok heavy := by
  unfold isHeavyPipeline totalCost at classified
  cases charged : addCosts runtime 0 pipeline with
  | error raised => rw [charged] at classified; cases classified
  | ok total =>
      rw [charged] at classified
      obtain ⟨costs, mapped, same⟩ := addCosts_exact charged
      rw [zero_add] at same
      rw [isHeavyExactly, exactTotalCost, mapped, ← classified, same]
      rfl

/-- The weight of all calls of a pipeline that is carried out. -/
def copiesWeight (pipeline : List PipelineStep) : Rat :=
  (pipeline.map (fun step => copies step * stepWeight step)).sum

theorem exactCost_eq (repeats : RepeatsPositively step) :
    exactCost runtime step = .ok (copies step * stepWeight step) := by
  obtain ⟨counted, positive⟩ := repeats.counted runtime
  have charged : chargedRepeat runtime step.parameters = .ok (copies step : Int) := by
    unfold chargedRepeat
    rw [counted]
    change Except.ok (max 1 (copies step : Int)) = _
    rw [max_eq_right (by omega)]
  rw [exactCost, charged]
  rfl

theorem exactTotalCost_eq (repeats : ∀ step ∈ pipeline, RepeatsPositively step) :
    exactTotalCost runtime pipeline = .ok (copiesWeight pipeline) := by
  have mapped : pipeline.mapM (exactCost runtime) =
      .ok (pipeline.map (fun step => copies step * stepWeight step)) := by
    rw [Library.mapM_ok_iff, List.forall₂_map_right_iff, List.forall₂_same]
    exact fun step member => exactCost_eq (repeats step member)
  rw [exactTotalCost, mapped]
  rfl

theorem stepWeight_withoutRepeat (step : PipelineStep) :
    stepWeight (withoutRepeat step) = stepWeight step := by
  unfold stepWeight hasRegion
  rw [region_withoutRepeat]
  rfl

theorem copiesWeight_unroll : copiesWeight (unroll pipeline) = copiesWeight pipeline := by
  induction pipeline with
  | nil => rfl
  | cons step rest ih =>
      have copied : copiesWeight (List.replicate (copies step) (withoutRepeat step)) =
          copies step * stepWeight step := by
        unfold copiesWeight
        rw [List.map_replicate, List.sum_replicate, copies_withoutRepeat, stepWeight_withoutRepeat,
          Nat.cast_one, one_mul, nsmul_eq_mul]
      unfold copiesWeight at copied ih ⊢
      unfold unroll at ih ⊢
      rw [List.flatMap_cons, List.map_append, List.sum_append, copied, ih, List.map_cons,
        List.sum_cons]

theorem isHeavyExactly_unroll (repeats : ∀ step ∈ pipeline, RepeatsPositively step) :
    isHeavyExactly runtime (unroll pipeline) = isHeavyExactly runtime pipeline := by
  unfold isHeavyExactly
  rw [exactTotalCost_eq unroll_repeats, exactTotalCost_eq repeats, copiesWeight_unroll]

theorem withoutRepeat_chargeable (step : PipelineStep) :
    Chargeable runtime (withoutRepeat step) := by
  obtain ⟨counted, _⟩ := (withoutRepeat_repeats step).counted runtime
  rw [copies_withoutRepeat] at counted
  constructor
  · intro negative infinite
    rw [infinite] at counted
    cases counted
  · intro times again
    rw [counted] at again
    cases again
    have range := FrontEnd.factor_range (withoutRepeat step)
    have small := FrontEnd.ten_lt_doubleRange
    omega

theorem isHeavyPipeline_unroll (repeats : ∀ step ∈ pipeline, RepeatsPositively step) :
    isHeavyPipeline runtime (unroll pipeline) = isHeavyExactly runtime pipeline := by
  have chargeable : ∀ copy ∈ unroll pipeline, Chargeable runtime copy := by
    intro copy member
    obtain ⟨step, _, copied⟩ := List.mem_flatMap.mp member
    rw [List.eq_of_mem_replicate copied]
    exact withoutRepeat_chargeable step
  obtain ⟨heavy, classified⟩ := FrontEnd.isHeavyPipeline_ok_iff.mpr chargeable
  rw [classified, ← isHeavyExactly_unroll repeats, isHeavyPipeline_exact classified]

end Classification

/-- Unrolling changes neither what the worker computes, whatever the images and
the processing functions are, nor the queue in exact arithmetic. The source's
own classification of the unrolled pipeline is the exact one, and so is that of
the original wherever it does not overflow. -/
theorem unroll_preserves (runtime : Runtime)
    (repeats : ∀ step ∈ pipeline, RepeatsPositively step) :
    (∀ {Image : Type} (imaging : Imaging Image) (image : Image),
      processImage runtime imaging image (unroll pipeline) =
        processImage runtime imaging image pipeline) ∧
    isHeavyExactly runtime (unroll pipeline) = isHeavyExactly runtime pipeline ∧
    isHeavyPipeline runtime (unroll pipeline) = isHeavyExactly runtime pipeline ∧
    ∀ heavy, isHeavyPipeline runtime pipeline = .ok heavy →
      isHeavyPipeline runtime (unroll pipeline) = .ok heavy := by
  refine ⟨fun imaging image => processImage_unroll repeats image, isHeavyExactly_unroll repeats,
    isHeavyPipeline_unroll repeats, ?_⟩
  intro heavy classified
  rw [isHeavyPipeline_unroll repeats, isHeavyPipeline_exact classified]

/-- A blur of radius 2 that is repeated four times, and an emboss: together, that
is heavy. -/
def blurThenEmboss : List PipelineStep :=
  [⟨str "blur", [(str "radius", .int 2), (str "repeat", .int 4)]⟩, ⟨str "emboss", []⟩]

theorem unroll_preserves_blurThenEmboss :
    (unroll blurThenEmboss).length = 5 ∧
    (processImage plainRuntime pixelPillow.imaging () (unroll blurThenEmboss) =
      processImage plainRuntime pixelPillow.imaging () blurThenEmboss) ∧
    isHeavyPipeline plainRuntime (unroll blurThenEmboss) = .ok true := by
  have repeats : ∀ step ∈ blurThenEmboss, RepeatsPositively step := by
    intro step member
    rcases List.mem_pair.mp member with rfl | rfl
    · exact .inr ⟨4, by decide, by rfl⟩
    · exact .inl rfl
  have heavy : isHeavyPipeline plainRuntime blurThenEmboss = .ok true := by decide +kernel
  obtain ⟨processed, _, _, classified⟩ := unroll_preserves plainRuntime repeats
  exact ⟨by decide +kernel, processed pixelPillow.imaging (), classified true heavy⟩

end ImagePipeline.Properties.Unrolling
