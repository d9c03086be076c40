/-
`operations.py` over Pillow. A processing function is called with keyword
arguments, so a name it does not have, or a second `image`, is a `TypeError`
before any of its body runs. Pillow takes the values as they come: what it makes
of them is its own affair.
-/

import ImagePipeline.Worker.ImageProcessor

namespace ImagePipeline.Worker

open Common

inductive ImageFilter where
  | gaussianBlur (radius : Json)
  | emboss
  | findEdges

inductive ImageEnhance where
  | sharpness
  | contrast

/-- What the worker calls of Pillow. -/
structure Pillow (Image : Type) where
  openImage : Bytes → Except Exn Image
  convertRgb : Image → Except Exn Image
  copy : Image → Except Exn Image
  crop : Image → (left upper right lower : Int) → Except Exn Image
  paste : Image → Image → (left upper : Int) → Except Exn Image
  savePng : Image → Except Exn Bytes
  /-- `thumbnail` works in place; this is the image afterwards. -/
  thumbnail : Image → (width height : Json) → Except Exn Image
  /-- `ImageOps.grayscale`. -/
  grayscale : Image → Except Exn Image
  filter : Image → ImageFilter → Except Exn Image
  rotate : Image → (angle expand : Json) → Except Exn Image
  enhance : ImageEnhance → Image → (factor : Json) → Except Exn Image

namespace Pillow

variable {Image : Type} (pillow : Pillow Image) (image : Image)

def createThumbnail (width height : Json) : Except Exn Image :=
  match pillow.copy image with
  | .error raised => .error raised
  | .ok result => pillow.thumbnail result width height

def convertToGrayscale : Except Exn Image :=
  match pillow.grayscale image with
  | .error raised => .error raised
  | .ok gray => pillow.convertRgb gray

def applyBlur (radius : Json) : Except Exn Image := pillow.filter image (.gaussianBlur radius)

def rotateImage (angle expand : Json) : Except Exn Image := pillow.rotate image angle expand

def sharpenImage (factor : Json) : Except Exn Image := pillow.enhance .sharpness image factor

def adjustContrast (factor : Json) : Except Exn Image := pillow.enhance .contrast image factor

def embossImage : Except Exn Image := pillow.filter image .emboss

def detectEdges : Except Exn Image := pillow.filter image .findEdges

end Pillow

/-- The keyword parameters of a processing function besides `image`. -/
def ProcessingFunction.keywords : ProcessingFunction → List Str
  | .createThumbnail => [str "width", str "height"]
  | .applyBlur => [str "radius"]
  | .rotateImage => [str "angle", str "expand"]
  | .sharpenImage | .adjustContrast => [str "factor"]
  | .convertToGrayscale | .embossImage | .detectEdges => []

/-- `processing_function(image, **parameters)` once the names are bound, with
the defaults of the signatures. -/
def ProcessingFunction.call {Image : Type} (pillow : Pillow Image) (image : Image)
    (parameters : Dict) : ProcessingFunction → Except Exn Image
  | .createThumbnail =>
      pillow.createThumbnail image (parameters.getD (str "width") (.int 300))
        (parameters.getD (str "height") (.int 300))
  | .convertToGrayscale => pillow.convertToGrayscale image
  | .applyBlur => pillow.applyBlur image (parameters.getD (str "radius") (.int 4))
  | .rotateImage =>
      pillow.rotateImage image (parameters.getD (str "angle") (.int 90))
        (parameters.getD (str "expand") (.bool true))
  | .sharpenImage =>
      pillow.sharpenImage image (parameters.getD (str "factor") (.float (.finite 2)))
  | .adjustContrast =>
      pillow.adjustContrast image (parameters.getD (str "factor") (.float (.finite (3 / 2))))
  | .embossImage => pillow.embossImage image
  | .detectEdges => pillow.detectEdges image

theorem ProcessingFunction.keywords_all_iff (processing : ProcessingFunction) (parameters : Dict) :
    parameters.all (fun field => processing.keywords.contains field.1) = true ↔
      ∀ field ∈ parameters, field.1 ∈ processing.keywords := by
  simp only [List.all_eq_true, List.contains_iff_mem]

instance (processing : ProcessingFunction) (parameters : Dict) :
    Decidable (∀ field ∈ parameters, field.1 ∈ processing.keywords) :=
  decidable_of_iff _ (processing.keywords_all_iff parameters)

def ProcessingFunction.callWithKeywords {Image : Type} (pillow : Pillow Image)
    (processing : ProcessingFunction) (image : Image) (parameters : Dict) : Except Exn Image :=
  if ∀ field ∈ parameters, field.1 ∈ processing.keywords then
    processing.call pillow image parameters
  else .error .typeError

/-- The worker's imaging is `operations.py` on top of Pillow. -/
def Pillow.imaging {Image : Type} (pillow : Pillow Image) : Imaging Image :=
  { openImage := pillow.openImage
    convertRgb := pillow.convertRgb
    copy := pillow.copy
    crop := pillow.crop
    paste := pillow.paste
    apply := fun _ processing image parameters =>
      processing.callWithKeywords pillow image parameters
    savePng := pillow.savePng }

structure Pillow.Works {Image : Type} (pillow : Pillow Image) : Prop where
  convertRgb : ∀ image, ∃ result, pillow.convertRgb image = .ok result
  copy : ∀ image, ∃ result, pillow.copy image = .ok result
  crop : ∀ image left upper right lower, ∃ result,
    pillow.crop image left upper right lower = .ok result
  paste : ∀ image source left upper, ∃ result, pillow.paste image source left upper = .ok result
  thumbnail : ∀ image width height, ∃ result, pillow.thumbnail image width height = .ok result
  grayscale : ∀ image, ∃ result, pillow.grayscale image = .ok result
  filter : ∀ image kernel, ∃ result, pillow.filter image kernel = .ok result
  rotate : ∀ image angle expand, ∃ result, pillow.rotate image angle expand = .ok result
  enhance : ∀ enhancer image factor, ∃ result, pillow.enhance enhancer image factor = .ok result

theorem ProcessingFunction.call_works {Image : Type} {pillow : Pillow Image}
    (works : pillow.Works) (processing : ProcessingFunction) (image : Image)
    (parameters : Dict) : ∃ result, processing.call pillow image parameters = .ok result := by
  cases processing with
  | createThumbnail =>
      obtain ⟨copied, same⟩ := works.copy image
      obtain ⟨result, done⟩ := works.thumbnail copied
        (parameters.getD (str "width") (.int 300)) (parameters.getD (str "height") (.int 300))
      refine ⟨result, ?_⟩
      simp only [call, Pillow.createThumbnail, same, done]
  | convertToGrayscale =>
      obtain ⟨gray, converted⟩ := works.grayscale image
      obtain ⟨result, done⟩ := works.convertRgb gray
      refine ⟨result, ?_⟩
      simp only [call, Pillow.convertToGrayscale, converted, done]
  | applyBlur => exact works.filter image _
  | rotateImage => exact works.rotate image _ _
  | sharpenImage => exact works.enhance .sharpness image _
  | adjustContrast => exact works.enhance .contrast image _
  | embossImage => exact works.filter image .emboss
  | detectEdges => exact works.filter image .findEdges

/-! ### One image -/

/-- Pillow on the black pixel, as `pixelImaging` has it. -/
def pixelPillow : Pillow Unit :=
  { openImage := pixelImaging.openImage
    convertRgb := pixelImaging.convertRgb
    copy := pixelImaging.copy
    crop := pixelImaging.crop
    paste := pixelImaging.paste
    savePng := pixelImaging.savePng
    thumbnail := fun _ _ _ => .ok ()
    grayscale := fun _ => .ok ()
    filter := fun _ _ => .ok ()
    rotate := fun _ _ _ => .ok ()
    enhance := fun _ _ _ => .ok () }

theorem pixelPillow_works : pixelPillow.Works := by
  constructor
  all_goals
    intros
    exact ⟨(), rfl⟩

end ImagePipeline.Worker
