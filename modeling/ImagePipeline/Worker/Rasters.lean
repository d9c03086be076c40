/-
Pillow on images of pixels: what is relied on of its sizes and of the pixels it
leaves alone or fills in.
-/

import ImagePipeline.Library.Raster
import ImagePipeline.Worker.Operations

namespace ImagePipeline.Worker

open Common
open Library (Raster Box Traced)
open Library.Raster (SameSize Filled)

abbrev Rgb := UInt8 × UInt8 × UInt8

def black : Rgb := (0, 0, 0)

def white : Rgb := (255, 255, 255)

/-- Python's `bool(value)`. -/
def truthy : Json → Bool
  | .null | .float .negativeZero => false
  | .bool value => value
  | .int value => value ≠ 0
  | .float value => value ≠ .finite 0
  | .str text => text ≠ []
  | .arr items => !items.isEmpty
  | .obj fields => !fields.isEmpty

/-- What the operations do to sizes and to black pixels. `expandedSize` is the
size of an image that is rotated with `expand`. -/
structure Pillow.Draws (pillow : Pillow (Raster Rgb))
    (expandedSize : (angle : Json) → (width height : Nat) → Nat × Nat) : Prop where
  copy : ∀ image, pillow.copy image = .ok image
  crop : ∀ image (box : Box),
    pillow.crop image box.left box.upper (box.left + box.width) (box.upper + box.height) =
      .ok (image.cropped black box)
  cropOutOfOrder : ∀ image left upper right lower, right < left ∨ lower < upper →
    ∃ raised, pillow.crop image left upper right lower = .error raised
  paste : ∀ image source left upper,
    pillow.paste image source left upper = .ok (image.pasted source left upper)
  thumbnail : ∀ image width height result, pillow.thumbnail image width height = .ok result →
    result.width ≤ image.width ∧ result.height ≤ image.height
  grayscale : ∀ image result, pillow.grayscale image = .ok result → SameSize result image
  convertRgb : ∀ image result, pillow.convertRgb image = .ok result → SameSize result image
  filter : ∀ image kernel result, pillow.filter image kernel = .ok result → SameSize result image
  enhance : ∀ enhancer image factor result, pillow.enhance enhancer image factor = .ok result →
    SameSize result image
  rotate : ∀ image angle expand result, pillow.rotate image angle expand = .ok result →
    (result.width, result.height) =
      if truthy expand then expandedSize angle image.width image.height
      else (image.width, image.height)
  /-- The corners that rotation opens are black. -/
  rotateBlack : ∀ image angle expand result, pillow.rotate image angle expand = .ok result →
    Filled black image → Filled black result
  /-- Whether a rotation raises does not depend on the pixels. -/
  rotateAny : ∀ image other angle expand result, SameSize image other →
    pillow.rotate image angle expand = .ok result →
    ∃ rotated, pillow.rotate other angle expand = .ok rotated
  rightAngle : ∀ width height, expandedSize (.int 90) width height = (height, width)

def ProcessingFunction.expands (processing : ProcessingFunction) (parameters : Dict) : Bool :=
  processing = .rotateImage && truthy (parameters.getD (str "expand") (.bool true))

/-- How large the image can be that the call returns. -/
def ProcessingFunction.sizeBound (processing : ProcessingFunction) (parameters : Dict)
    (expandedSize : Json → Nat → Nat → Nat × Nat) (width height : Nat) : Nat × Nat :=
  if processing.expands parameters then
    expandedSize (parameters.getD (str "angle") (.int 90)) width height
  else (width, height)

variable {pillow : Pillow (Raster Rgb)} {expandedSize : Json → Nat → Nat → Nat × Nat}
  {processing : ProcessingFunction} {parameters : Dict} {image result : Raster Rgb}

theorem callWithKeywords_eq
    (returned : processing.callWithKeywords pillow image parameters = .ok result) :
    processing.call pillow image parameters = .ok result := by
  unfold ProcessingFunction.callWithKeywords at returned
  split at returned
  · exact returned
  · cases returned

theorem callWithKeywords_size (draws : pillow.Draws expandedSize)
    (returned : processing.callWithKeywords pillow image parameters = .ok result) :
    result.width ≤ (processing.sizeBound parameters expandedSize image.width image.height).1 ∧
      result.height ≤
        (processing.sizeBound parameters expandedSize image.width image.height).2 := by
  have called := callWithKeywords_eq returned
  have same (size : SameSize result image) :
      result.width ≤ image.width ∧ result.height ≤ image.height :=
    ⟨le_of_eq size.1, le_of_eq size.2⟩
  cases processing with
  | createThumbnail =>
      simp only [ProcessingFunction.call, Pillow.createThumbnail, draws.copy] at called
      exact draws.thumbnail _ _ _ _ called
  | convertToGrayscale =>
      simp only [ProcessingFunction.call, Pillow.convertToGrayscale] at called
      cases gray : pillow.grayscale image with
      | error raised => rw [gray] at called; cases called
      | ok converted =>
          rw [gray] at called
          exact same ((draws.convertRgb _ _ called).trans (draws.grayscale _ _ gray))
  | applyBlur => exact same (draws.filter _ _ _ called)
  | sharpenImage => exact same (draws.enhance _ _ _ _ called)
  | adjustContrast => exact same (draws.enhance _ _ _ _ called)
  | embossImage => exact same (draws.filter _ _ _ called)
  | detectEdges => exact same (draws.filter _ _ _ called)
  | rotateImage =>
      have size := draws.rotate _ _ _ _ called
      unfold ProcessingFunction.sizeBound ProcessingFunction.expands
      rw [decide_eq_true rfl, Bool.true_and, ← size]
      exact ⟨le_refl _, le_refl _⟩

/-- A rotation that expands reaches its bound, returns on every image of the
size, and keeps black images black. -/
theorem callWithKeywords_expands (draws : pillow.Draws expandedSize)
    (expands : processing.expands parameters = true)
    (returned : processing.callWithKeywords pillow image parameters = .ok result)
    {other : Raster Rgb} (size : SameSize image other) (filled : Filled black other) :
    ∃ rotated, processing.callWithKeywords pillow other parameters = .ok rotated ∧
      (rotated.width, rotated.height) =
        processing.sizeBound parameters expandedSize other.width other.height ∧
      Filled black rotated := by
  unfold ProcessingFunction.expands at expands
  rw [Bool.and_eq_true, decide_eq_true_iff] at expands
  obtain ⟨rfl, expand⟩ := expands
  have called := callWithKeywords_eq returned
  unfold ProcessingFunction.callWithKeywords at returned ⊢
  split at returned
  · rename_i bound
    rw [if_pos bound]
    obtain ⟨rotated, again⟩ := draws.rotateAny _ _ _ _ _ size called
    refine ⟨rotated, again, ?_, draws.rotateBlack _ _ _ _ again filled⟩
    have rotatedSize := draws.rotate _ _ _ _ again
    rw [rotatedSize]
    unfold ProcessingFunction.sizeBound ProcessingFunction.expands
    rw [decide_eq_true rfl, Bool.true_and]
  · cases returned

end ImagePipeline.Worker
