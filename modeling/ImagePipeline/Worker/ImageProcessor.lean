/-
`image_processor.py`. Pillow and the processing functions are a parameter; the
trace records every call of a processing function that is made, also when the
call raises.
-/

import ImagePipeline.Api.Pipeline
import ImagePipeline.Library.Traced

namespace ImagePipeline.Worker

open Common
open Api (hasRegion)
open Library (Traced)

inductive ProcessingFunction where
  | createThumbnail
  | convertToGrayscale
  | applyBlur
  | rotateImage
  | sharpenImage
  | adjustContrast
  | embossImage
  | detectEdges
  deriving DecidableEq

def operationRegistry : List (Str × ProcessingFunction) :=
  [(str "thumbnail", .createThumbnail), (str "grayscale", .convertToGrayscale),
    (str "blur", .applyBlur), (str "rotate", .rotateImage), (str "sharpen", .sharpenImage),
    (str "contrast", .adjustContrast), (str "emboss", .embossImage),
    (str "edge_detect", .detectEdges)]

/-- One call of a processing function: the step's operation, and whether the
step has a region. -/
structure Call where
  operation : Str
  regional : Bool

/-- Images and what is done to them outside this repository's control. A
processing function may behave differently on every call: it sees the calls
made so far. -/
structure Imaging (Image : Type) where
  openImage : Bytes → Except Exn Image
  convertRgb : Image → Except Exn Image
  copy : Image → Except Exn Image
  crop : Image → (left upper right lower : Int) → Except Exn Image
  paste : Image → Image → (left upper : Int) → Except Exn Image
  apply : List Call → ProcessingFunction → Image → Dict → Except Exn Image
  savePng : Image → Except Exn Bytes

variable {Image : Type} (runtime : Runtime) (imaging : Imaging Image)

/-- `processing_function(image, **parameters)`. -/
def callProcessing (call : Call) (processing : ProcessingFunction) (parameters : Dict)
    (image : Image) : Traced Call Exn Image := do
  Traced.record call
  Traced.afterTrace (fun calls => imaging.apply calls processing image parameters)

/-- `int(region[name])`. -/
def regionField (region : Json) (name : Str) : Except Exn Int :=
  match region with
  | .obj fields =>
      match Dict.get? fields name with
      | some value => runtime.toInt value
      | none => .error .keyError
  | _ => .error .typeError

def applyToRegion (call : Call) (processing : ProcessingFunction) (parameters : Dict)
    (region : Json) (image : Image) : Traced Call Exn Image := do
  let x ← Traced.ofExcept (regionField runtime region (str "x"))
  let y ← Traced.ofExcept (regionField runtime region (str "y"))
  let width ← Traced.ofExcept (regionField runtime region (str "width"))
  let height ← Traced.ofExcept (regionField runtime region (str "height"))
  let imageCopy ← Traced.ofExcept (imaging.copy image)
  let croppedRegion ← Traced.ofExcept (imaging.crop imageCopy x y (x + width) (y + height))
  let processedRegion ← callProcessing imaging call processing parameters croppedRegion
  Traced.ofExcept (imaging.paste imageCopy processedRegion x y)

def repeatTimes {Value : Type} (body : Value → Traced Call Exn Value) :
    Nat → Value → Traced Call Exn Value
  | 0, value => pure value
  | times + 1, value => do
      let next ← body value
      repeatTimes body times next

section Repeat

variable {Value : Type} {body : Value → Traced Call Exn Value} {times : Nat} {value : Value}
  {trace : List Call}

theorem repeatTimes_one (value : Value) : repeatTimes body 1 value = body value :=
  bind_pure (body value)

theorem repeatTimes_keeps (known : Value → Prop) {result : Value} {later : List Call}
    (keeps : ∀ value trace next later, known value → body value trace = (.ok next, later) →
      known next) (start : known value)
    (returned : repeatTimes body times value trace = (.ok result, later)) : known result := by
  induction times generalizing value trace with
  | zero =>
      cases returned
      exact start
  | succ times ih =>
      obtain ⟨next, middle, first, rest⟩ := Traced.bind_eq_ok returned
      exact ih (keeps value trace next middle start first) rest

theorem repeatTimes_returns (known : Value → Prop)
    (returns : ∀ value trace, known value → ∃ next later,
      body value trace = (.ok next, later) ∧ known next) (start : known value) :
    ∃ result later, repeatTimes body times value trace = (.ok result, later) ∧ known result := by
  induction times generalizing value trace with
  | zero => exact ⟨value, trace, rfl, start⟩
  | succ times ih =>
      obtain ⟨next, middle, first, kept⟩ := returns value trace start
      obtain ⟨result, later, rest, atEnd⟩ := ih kept
      exact ⟨result, later, (Traced.bind_ok first).trans rest, atEnd⟩

end Repeat

/-- One application of a step, in its region or to the whole image. -/
def applyOnce (operation : Str) (processing : ProcessingFunction) (parameters : Dict)
    (region : Json) (image : Image) : Traced Call Exn Image :=
  match region with
  | .null => callProcessing imaging ⟨operation, false⟩ processing parameters image
  | area => applyToRegion runtime imaging ⟨operation, true⟩ processing parameters area image

def applyPipelineStep (step : PipelineStep) (image : Image) : Traced Call Exn Image :=
  match operationRegistry.lookup step.operation with
  | none => Traced.ofExcept (.error .valueError)
  | some processing => do
      let times ← Traced.ofExcept
        (runtime.toInt (step.parameters.getD (str "repeat") (.int 1)))
      let afterRepeat := step.parameters.erase (str "repeat")
      let region := afterRepeat.getD (str "region") .null
      let parameters := afterRepeat.erase (str "region")
      repeatTimes (applyOnce runtime imaging step.operation processing parameters region)
        times.toNat image

theorem applyPipelineStep_error {step : PipelineStep} {processing : ProcessingFunction}
    {raised : Exn} (registered : operationRegistry.lookup step.operation = some processing)
    (failed : runtime.toInt (step.parameters.getD (str "repeat") (.int 1)) = .error raised)
    (image : Image) :
    applyPipelineStep runtime imaging step image = Traced.ofExcept (.error raised) := by
  simp only [applyPipelineStep, registered, failed, Traced.ofExcept_error_bind]

theorem applyPipelineStep_ok {step : PipelineStep} {processing : ProcessingFunction}
    {times : Int} (registered : operationRegistry.lookup step.operation = some processing)
    (counted : runtime.toInt (step.parameters.getD (str "repeat") (.int 1)) = .ok times)
    (image : Image) :
    applyPipelineStep runtime imaging step image =
      repeatTimes (applyOnce runtime imaging step.operation processing
        ((step.parameters.erase (str "repeat")).erase (str "region"))
        (step.parameters.getD (str "region") .null)) times.toNat image := by
  have different : str "region" ≠ str "repeat" := by
    rw [Ne, str_inj]
    decide
  simp only [applyPipelineStep, registered, counted, Traced.ofExcept_ok_bind,
    Dict.getD_erase_ne different]

def applySteps : List PipelineStep → Image → Traced Call Exn Image
  | [], image => pure image
  | step :: rest, image => do
      let next ← applyPipelineStep runtime imaging step image
      applySteps rest next

theorem applySteps_append (first second : List PipelineStep) (image : Image) :
    applySteps runtime imaging (first ++ second) image =
      applySteps runtime imaging first image >>= applySteps runtime imaging second := by
  induction first generalizing image with
  | nil => rfl
  | cons step rest ih =>
      change (applyPipelineStep runtime imaging step image >>=
        applySteps runtime imaging (rest ++ second)) = _
      rw [funext ih]
      exact (bind_assoc _ _ _).symm

theorem applySteps_replicate (times : Nat) (step : PipelineStep) (image : Image) :
    applySteps runtime imaging (List.replicate times step) image =
      repeatTimes (applyPipelineStep runtime imaging step) times image := by
  induction times generalizing image with
  | zero => rfl
  | succ times ih =>
      change (applyPipelineStep runtime imaging step image >>=
        applySteps runtime imaging (List.replicate times step)) = _
      rw [funext ih]
      rfl

def processImage (image : Image) (pipeline : List PipelineStep) : Traced Call Exn Image := do
  let converted ← Traced.ofExcept (imaging.convertRgb image)
  applySteps runtime imaging pipeline converted

/-- What `Worker.run_once` does between the download and the upload: decode,
process, encode as PNG. -/
def renderResult (inputBytes : Bytes) (pipeline : List PipelineStep) : Except Exn Bytes :=
  match imaging.openImage inputBytes with
  | .error raised => .error raised
  | .ok image =>
      match (processImage runtime imaging image pipeline []).1 with
      | .error raised => .error raised
      | .ok result => imaging.savePng result

/-! ### One image -/

/-- A black 1×1 image as PPM. -/
def blackPixel : Bytes := [80, 54, 32, 49, 32, 49, 32, 50, 53, 53, 10, 0, 0, 0]

/-- The same image as an 8-bit greyscale PNG. -/
def blackPixelPng : Bytes :=
  [137, 80, 78, 71, 13, 10, 26, 10, 0, 0, 0, 13, 73, 72, 68, 82, 0, 0, 0, 1, 0, 0, 0, 1, 8, 0, 0,
    0, 0, 58, 126, 155, 85, 0, 0, 0, 10, 73, 68, 65, 84, 120, 156, 99, 96, 0, 0, 0, 2, 0, 1, 72,
    175, 164, 113, 0, 0, 0, 0, 73, 69, 78, 68, 174, 66, 96, 130]

/-- Pillow on that one image: a black pixel stays one under every operation. -/
def pixelImaging : Imaging Unit :=
  { openImage := fun data => if data = blackPixel then .ok () else .error .other
    convertRgb := fun _ => .ok ()
    copy := fun _ => .ok ()
    crop := fun _ _ _ _ _ => .ok ()
    paste := fun _ _ _ _ => .ok ()
    apply := fun _ _ _ _ => .ok ()
    savePng := fun _ => .ok blackPixelPng }

end ImagePipeline.Worker
