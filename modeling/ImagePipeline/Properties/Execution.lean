/-
What a pipeline must look like for the worker to run it, as against what the
API accepts. Pillow is taken never to fail, so that only the pipeline's own
form is left to blame.
-/

import ImagePipeline.Api.PipelineGrammar
import ImagePipeline.Worker.Operations

namespace ImagePipeline.Properties.Execution

open Common Api Worker
open Library (Traced)
open Library.Traced (Returns Raises)

/-- `int(value)` succeeds. -/
def Convertible (runtime : Runtime) (value : Json) : Prop :=
  ∃ number, runtime.toInt value = .ok number

/-- No region, or an object whose four fields are numbers. -/
def RegionForm (runtime : Runtime) (region : Json) : Prop :=
  region = .null ∨ ∃ fields, region = .obj fields ∧
    ∀ name ∈ [str "x", str "y", str "width", str "height"],
      ∃ value, Dict.get? fields name = some value ∧ Convertible runtime value

/-- The form in which the worker can run a step: `repeat` is a number, and
unless that makes the loop empty, so are the region's fields, and every other
parameter is a keyword of the operation's function. -/
def Executable (runtime : Runtime) (step : PipelineStep) : Prop :=
  ∃ times, runtime.toInt (step.parameters.getD (str "repeat") (.int 1)) = .ok times ∧
    (0 < times → RegionForm runtime (step.parameters.getD (str "region") .null) ∧
      ∀ processing, operationRegistry.lookup step.operation = some processing →
        ∀ field ∈ step.parameters, field.1 = str "repeat" ∨ field.1 = str "region" ∨
          field.1 ∈ processing.keywords)

theorem allowed_registered {operation : Str} (allowed : operation ∈ allowedOperations) :
    ∃ processing, operationRegistry.lookup operation = some processing := by
  have all : ∀ operation ∈ allowedOperations,
      (operationRegistry.lookup operation).isSome = true := by decide
  exact Option.isSome_iff_exists.mp (all operation allowed)

section Step

variable {Image : Type} {runtime : Runtime} {pillow : Pillow Image}

theorem callProcessing_returns (works : pillow.Works) {call : Call}
    {processing : ProcessingFunction} {parameters : Dict}
    (named : ∀ field ∈ parameters, field.1 ∈ processing.keywords) (image : Image) :
    Returns (callProcessing pillow.imaging call processing parameters image) := by
  apply Returns.bind (Returns.record call)
  intro _ trace
  obtain ⟨result, called⟩ := processing.call_works works image parameters
  refine ⟨result, trace, ?_⟩
  simp only [Traced.afterTrace, Pillow.imaging, ProcessingFunction.callWithKeywords, if_pos named,
    called]

theorem callProcessing_raises {call : Call} {processing : ProcessingFunction} {parameters : Dict}
    (unnamed : ¬ ∀ field ∈ parameters, field.1 ∈ processing.keywords) (image : Image) :
    Raises (callProcessing pillow.imaging call processing parameters image) := by
  apply Raises.bind
  intro _ trace
  refine ⟨.typeError, trace, ?_⟩
  simp only [Traced.afterTrace, Pillow.imaging, ProcessingFunction.callWithKeywords, if_neg unnamed]

theorem regionField_ok_iff {region : Json} {name : Str} :
    (∃ number, regionField runtime region name = .ok number) ↔
      ∃ fields, region = .obj fields ∧
        ∃ value, Dict.get? fields name = some value ∧ Convertible runtime value := by
  constructor
  · intro ⟨number, read⟩
    unfold regionField at read
    split at read
    · rename_i fields
      split at read
      · rename_i value found
        exact ⟨fields, rfl, value, found, number, read⟩
      · cases read
    · cases read
  · rintro ⟨fields, rfl, value, found, number, converted⟩
    exact ⟨number, by simp only [regionField, found, converted]⟩

theorem regionForm_iff {region : Json} (given : region ≠ .null) :
    RegionForm runtime region ↔ ∀ name ∈ [str "x", str "y", str "width", str "height"],
      ∃ number, regionField runtime region name = .ok number := by
  constructor
  · rintro (absent | ⟨fields, rfl, named⟩) name member
    · exact absurd absent given
    · exact regionField_ok_iff.mpr ⟨fields, rfl, named name member⟩
  · intro readable
    obtain ⟨fields, rfl, _⟩ := regionField_ok_iff.mp (readable (str "x") (by decide))
    refine .inr ⟨fields, rfl, ?_⟩
    intro name member
    obtain ⟨_, same, found⟩ := regionField_ok_iff.mp (readable name member)
    cases same
    exact found

theorem applyToRegion_returns (works : pillow.Works) {call : Call}
    {processing : ProcessingFunction} {parameters : Dict} {region : Json}
    (readable : ∀ name ∈ [str "x", str "y", str "width", str "height"],
      ∃ number, regionField runtime region name = .ok number)
    (named : ∀ field ∈ parameters, field.1 ∈ processing.keywords) (image : Image) :
    Returns (applyToRegion runtime pillow.imaging call processing parameters region image) := by
  obtain ⟨_, x⟩ := readable (str "x") (by decide)
  obtain ⟨_, y⟩ := readable (str "y") (by decide)
  obtain ⟨_, width⟩ := readable (str "width") (by decide)
  obtain ⟨_, height⟩ := readable (str "height") (by decide)
  apply Returns.bind (Returns.ofExcept x)
  intro left
  apply Returns.bind (Returns.ofExcept y)
  intro upper
  apply Returns.bind (Returns.ofExcept width)
  intro width
  apply Returns.bind (Returns.ofExcept height)
  intro height
  obtain ⟨_, copied⟩ := works.copy image
  apply Returns.bind (Returns.ofExcept copied)
  intro imageCopy
  obtain ⟨_, cropped⟩ := works.crop imageCopy left upper (left + width) (upper + height)
  apply Returns.bind (Returns.ofExcept cropped)
  intro croppedRegion
  apply Returns.bind (callProcessing_returns works named croppedRegion)
  intro processedRegion
  obtain ⟨_, pasted⟩ := works.paste imageCopy processedRegion left upper
  exact Returns.ofExcept pasted

theorem raises_of_unreadable {region : Json} {name : Str}
    (unreadable : ¬ ∃ number, regionField runtime region name = .ok number) :
    Raises (Traced.ofExcept (regionField runtime region name) : Traced Call Exn Int) := by
  cases read : regionField runtime region name with
  | error raised => exact Raises.ofExcept rfl
  | ok number => exact absurd ⟨number, read⟩ unreadable

theorem applyToRegion_raises {call : Call} {processing : ProcessingFunction} {parameters : Dict}
    {region : Json}
    (malformed : ¬ ((∀ name ∈ [str "x", str "y", str "width", str "height"],
        ∃ number, regionField runtime region name = .ok number) ∧
      ∀ field ∈ parameters, field.1 ∈ processing.keywords)) (image : Image) :
    Raises (applyToRegion runtime pillow.imaging call processing parameters region image) := by
  by_cases x : ∃ number, regionField runtime region (str "x") = .ok number
  · apply Raises.bind
    intro left
    by_cases y : ∃ number, regionField runtime region (str "y") = .ok number
    · apply Raises.bind
      intro upper
      by_cases wide : ∃ number, regionField runtime region (str "width") = .ok number
      · apply Raises.bind
        intro width
        by_cases high : ∃ number, regionField runtime region (str "height") = .ok number
        · apply Raises.bind
          intro height
          apply Raises.bind
          intro imageCopy
          apply Raises.bind
          intro croppedRegion
          apply Raises.bind_first
          apply callProcessing_raises
          intro named
          apply malformed
          refine ⟨?_, named⟩
          simp only [List.forall_mem_cons, List.not_mem_nil, false_implies, implies_true, and_true]
          exact ⟨x, y, wide, high⟩
        · exact Raises.bind_first (raises_of_unreadable high)
      · exact Raises.bind_first (raises_of_unreadable wide)
    · exact Raises.bind_first (raises_of_unreadable y)
  · exact Raises.bind_first (raises_of_unreadable x)

theorem applyOnce_returns (works : pillow.Works) {operation : Str}
    {processing : ProcessingFunction} {parameters : Dict} {region : Json}
    (formed : RegionForm runtime region)
    (named : ∀ field ∈ parameters, field.1 ∈ processing.keywords) (image : Image) :
    Returns (applyOnce runtime pillow.imaging operation processing parameters region image) := by
  unfold applyOnce
  split
  · exact callProcessing_returns works named image
  · rename_i given
    exact applyToRegion_returns works ((regionForm_iff given).mp formed) named image

theorem applyOnce_raises {operation : Str} {processing : ProcessingFunction} {parameters : Dict}
    {region : Json} (malformed : ¬ (RegionForm runtime region ∧
      ∀ field ∈ parameters, field.1 ∈ processing.keywords)) (image : Image) :
    Raises (applyOnce runtime pillow.imaging operation processing parameters region image) := by
  unfold applyOnce
  split
  · apply callProcessing_raises
    intro named
    exact malformed ⟨.inl rfl, named⟩
  · rename_i given
    apply applyToRegion_raises
    intro ⟨readable, named⟩
    exact malformed ⟨(regionForm_iff given).mpr readable, named⟩

theorem repeatTimes_works {body : Image → Traced Call Exn Image}
    (each : ∀ image, Returns (body image)) (times : Nat) (image : Image) :
    Returns (repeatTimes body times image) := by
  intro trace
  have returns (value : Image) (before : List Call) (_ : True) :
      ∃ next later, body value before = (.ok next, later) ∧ True := by
    obtain ⟨next, later, ran⟩ := each value before
    exact ⟨next, later, ran, trivial⟩
  obtain ⟨result, later, ran, _⟩ := repeatTimes_returns (fun _ => True) returns trivial
  exact ⟨result, later, ran⟩

/-- The parameters left for the operation's function once `repeat` and `region`
are popped. -/
theorem named_iff {parameters : Dict} {processing : ProcessingFunction} :
    (∀ field ∈ (parameters.erase (str "repeat")).erase (str "region"),
        field.1 ∈ processing.keywords) ↔
      ∀ field ∈ parameters, field.1 = str "repeat" ∨ field.1 = str "region" ∨
        field.1 ∈ processing.keywords := by
  unfold Dict.erase
  constructor
  · intro named field member
    by_cases again : field.1 = str "repeat"
    · exact .inl again
    · by_cases area : field.1 = str "region"
      · exact .inr (.inl area)
      · refine .inr (.inr (named field ?_))
        simp only [List.mem_filter, member, again, area, ne_eq, not_false_eq_true,
          decide_true, and_self]
  · intro named field member
    simp only [List.mem_filter, ne_eq, decide_eq_true_eq] at member
    obtain ⟨⟨present, notRepeat⟩, notRegion⟩ := member
    exact ((named field present).resolve_left notRepeat).resolve_left notRegion

variable {step : PipelineStep}

theorem applyPipelineStep_returns (works : pillow.Works)
    (allowed : step.operation ∈ allowedOperations) (executable : Executable runtime step)
    (image : Image) : Returns (applyPipelineStep runtime pillow.imaging step image) := by
  obtain ⟨processing, registered⟩ := allowed_registered allowed
  obtain ⟨times, counted, formed⟩ := executable
  rw [applyPipelineStep_ok runtime pillow.imaging registered counted]
  by_cases positive : 0 < times
  · obtain ⟨region, names⟩ := formed positive
    exact repeatTimes_works
      (applyOnce_returns works region (named_iff.mpr (names processing registered))) _ image
  · have none : times.toNat = 0 := by omega
    rw [none]
    exact Returns.pure image

theorem applyPipelineStep_raises (allowed : step.operation ∈ allowedOperations)
    (executable : ¬ Executable runtime step) (image : Image) :
    Raises (applyPipelineStep runtime pillow.imaging step image) := by
  obtain ⟨processing, registered⟩ := allowed_registered allowed
  cases counted : runtime.toInt (step.parameters.getD (str "repeat") (.int 1)) with
  | error raised =>
      rw [applyPipelineStep_error runtime pillow.imaging registered counted]
      exact Raises.ofExcept rfl
  | ok times =>
      rw [applyPipelineStep_ok runtime pillow.imaging registered counted]
      have positive : 0 < times := by
        by_contra none
        exact executable ⟨times, counted, fun some => absurd some none⟩
      obtain ⟨more, again⟩ : ∃ more, times.toNat = more + 1 := ⟨times.toNat - 1, by omega⟩
      rw [again]
      apply Raises.bind_first
      apply applyOnce_raises
      intro ⟨region, named⟩
      refine executable ⟨times, counted, fun _ => ⟨region, ?_⟩⟩
      intro other same
      cases registered.symm.trans same
      exact named_iff.mp named

theorem applySteps_returns (works : pillow.Works) {pipeline : List PipelineStep}
    (allowed : ∀ step ∈ pipeline, step.operation ∈ allowedOperations)
    (executable : ∀ step ∈ pipeline, Executable runtime step) (image : Image) :
    Returns (applySteps runtime pillow.imaging pipeline image) := by
  induction pipeline generalizing image with
  | nil => exact Returns.pure image
  | cons step rest ih =>
      apply Returns.bind (applyPipelineStep_returns works (allowed step List.mem_cons_self)
        (executable step List.mem_cons_self) image)
      intro next
      exact ih (fun step member => allowed step (List.mem_cons_of_mem _ member))
        (fun step member => executable step (List.mem_cons_of_mem _ member)) next

theorem applySteps_raises {pipeline : List PipelineStep}
    (allowed : ∀ step ∈ pipeline, step.operation ∈ allowedOperations)
    (executable : ¬ ∀ step ∈ pipeline, Executable runtime step) (image : Image) :
    Raises (applySteps runtime pillow.imaging pipeline image) := by
  induction pipeline generalizing image with
  | nil => exact absurd (fun step member => absurd member List.not_mem_nil) executable
  | cons step rest ih =>
      by_cases atStep : Executable runtime step
      · apply Raises.bind
        intro next
        apply ih (fun step member => allowed step (List.mem_cons_of_mem _ member))
        intro atRest
        exact executable (List.forall_mem_cons.mpr ⟨atStep, atRest⟩)
      · exact Raises.bind_first
          (applyPipelineStep_raises (allowed step List.mem_cons_self) atStep image)

end Step

/-- The worker runs an accepted pipeline, on this image and on any other,
exactly if every step has the form that `Executable` says. -/
theorem processImage_returns_iff {runtime : Runtime} {form : Option Json}
    {pipeline : List PipelineStep} {heavy : Bool}
    (accepted : parsePipeline runtime form = .ok pipeline)
    (_classified : isHeavyPipeline runtime pipeline = .ok heavy) {Image : Type}
    {pillow : Pillow Image} (works : pillow.Works) (image : Image) :
    (∃ result, (processImage runtime pillow.imaging image pipeline []).1 = .ok result) ↔
      ∀ step ∈ pipeline, Executable runtime step := by
  have allowed : ∀ step ∈ pipeline, step.operation ∈ allowedOperations :=
    fun step member => parsePipeline_allowed accepted member
  obtain ⟨converted, same⟩ := works.convertRgb image
  have start : processImage runtime pillow.imaging image pipeline =
      applySteps runtime pillow.imaging pipeline converted := by
    simp only [processImage, Pillow.imaging, same, Traced.ofExcept_ok_bind]
  rw [start]
  constructor
  · intro ⟨result, returned⟩
    by_contra malformed
    have raises : Raises (applySteps runtime pillow.imaging pipeline converted) :=
      applySteps_raises allowed malformed converted
    obtain ⟨raised, later, failed⟩ := raises []
    rw [failed] at returned
    cases returned
  · intro executable
    obtain ⟨result, later, returned⟩ := applySteps_returns works allowed executable converted []
    exact ⟨result, by rw [returned]⟩

/-! ### A count in words -/

def blurOften : Json :=
  .arr [.obj [(str "operation", .str (str "blur")),
    (str "parameters", .obj [(str "repeat", .str (str "often"))])]]

def blurOftenSteps : List PipelineStep := [⟨str "blur", [(str "repeat", .str (str "often"))]⟩]

/-- The API charges it as one application, the worker raises a `ValueError`. -/
theorem blurOften_raises :
    parsePipeline plainRuntime (some blurOften) = .ok blurOftenSteps ∧
    isHeavyPipeline plainRuntime blurOftenSteps = .ok false ∧
    (processImage plainRuntime pixelPillow.imaging () blurOftenSteps []).1 =
      .error .valueError := by
  refine ⟨?_, by decide +kernel, by decide +kernel⟩
  exact parsePipeline_ok_iff.mpr
    ⟨_, rfl, List.cons_ne_nil _ _, .cons ⟨⟨_, rfl, rfl, rfl⟩, by decide⟩ .nil⟩

/-- A blur in a region, its fields given in several types, three times over. -/
theorem processImage_returns_in_region :
    let area : Json := .obj [(str "x", .bool false), (str "y", .int 0),
      (str "width", .float (.finite (3 / 2))), (str "height", .str (str "3"))]
    let pipeline : List PipelineStep := [⟨str "blur", [(str "radius", .int 2),
      (str "repeat", .str (str "3")), (str "region", area)]⟩]
    (∃ result, (processImage plainRuntime pixelPillow.imaging () pipeline []).1 = .ok result) ↔
      ∀ step ∈ pipeline, Executable plainRuntime step := by
  intro area pipeline
  have accepted : parsePipeline plainRuntime (some (.arr [.obj [(str "operation", .str (str "blur")),
      (str "parameters", .obj [(str "radius", .int 2), (str "repeat", .str (str "3")),
        (str "region", area)])]])) = .ok pipeline :=
    parsePipeline_ok_iff.mpr
      ⟨_, rfl, List.cons_ne_nil _ _, .cons ⟨⟨_, rfl, rfl, rfl⟩, by decide⟩ .nil⟩
  have classified : isHeavyPipeline plainRuntime pipeline = .ok false := by decide +kernel
  exact processImage_returns_iff accepted classified pixelPillow_works ()

end ImagePipeline.Properties.Execution
