/-
What a step with a region changes. The worker pastes back whatever the operation
returned, at its own size: for a rotation that expands, that can be more than the
region it was cut from.
-/

import ImagePipeline.Api.PipelineGrammar
import ImagePipeline.Worker.Rasters

namespace ImagePipeline.Properties.RegionFrame

open Common Worker
open Api (plainRuntime)
open Library (Raster Box Traced)
open Library.Raster (SameSize SameOutside FilledIn Filled)

variable {runtime : Runtime} {pillow : Pillow (Raster Rgb)}
  {expandedSize : Json → Nat → Nat → Nat × Nat}

/-- What the worker reads of a region. -/
structure ReadsRegion (runtime : Runtime) (region : Json) (x y width height : Int) : Prop where
  x : regionField runtime region (str "x") = .ok x
  y : regionField runtime region (str "y") = .ok y
  width : regionField runtime region (str "width") = .ok width
  height : regionField runtime region (str "height") = .ok height

section Region

variable {call : Call} {processing : ProcessingFunction} {parameters : Dict} {region : Json}
  {x y width height : Int} {image result : Raster Rgb} {trace later : List Call}

theorem applyToRegion_returns_iff (draws : pillow.Draws expandedSize)
    (reads : ReadsRegion runtime region x y width height) :
    applyToRegion runtime pillow.imaging call processing parameters region image trace =
        (.ok result, later) ↔
      0 ≤ width ∧ 0 ≤ height ∧ ∃ processed,
        processing.callWithKeywords pillow
          (image.cropped black ⟨x, y, width.toNat, height.toNat⟩) parameters = .ok processed ∧
        result = image.pasted processed x y ∧ later = trace ++ [call] := by
  have copied : pillow.imaging.copy image = .ok image := draws.copy image
  unfold applyToRegion
  simp only [reads.x, reads.y, reads.width, reads.height, Traced.ofExcept_ok_bind, copied]
  by_cases ordered : 0 ≤ width ∧ 0 ≤ height
  · have box : pillow.imaging.crop image x y (x + width) (y + height) =
        .ok (image.cropped black ⟨x, y, width.toNat, height.toNat⟩) := by
      rw [← draws.crop image ⟨x, y, width.toNat, height.toNat⟩, Int.toNat_of_nonneg ordered.1,
        Int.toNat_of_nonneg ordered.2]
      rfl
    rw [box, Traced.ofExcept_ok_bind]
    have called : callProcessing pillow.imaging call processing parameters
        (image.cropped black ⟨x, y, width.toNat, height.toNat⟩) trace =
        (processing.callWithKeywords pillow
          (image.cropped black ⟨x, y, width.toNat, height.toNat⟩) parameters, trace ++ [call]) :=
      rfl
    cases ran : processing.callWithKeywords pillow
        (image.cropped black ⟨x, y, width.toNat, height.toNat⟩) parameters with
    | error raised =>
        rw [ran] at called
        rw [Traced.bind_error called]
        constructor
        · intro impossible
          cases impossible
        · intro ⟨_, _, _, impossible, _⟩
          cases impossible
    | ok processed =>
        rw [ran] at called
        have pasted : pillow.imaging.paste image processed x y =
            .ok (image.pasted processed x y) := draws.paste image processed x y
        rw [Traced.bind_ok called, pasted]
        constructor
        · intro same
          cases same
          exact ⟨ordered.1, ordered.2, processed, rfl, rfl, rfl⟩
        · rintro ⟨_, _, _, same, rfl, rfl⟩
          cases same
          rfl
  · have negative : x + width < x ∨ y + height < y := by omega
    obtain ⟨raised, failed⟩ := draws.cropOutOfOrder image x y (x + width) (y + height) negative
    have crop : pillow.imaging.crop image x y (x + width) (y + height) = .error raised := failed
    rw [crop, Traced.ofExcept_error_bind]
    constructor
    · intro impossible
      cases impossible
    · intro ⟨widthNonneg, heightNonneg, _⟩
      exact absurd ⟨widthNonneg, heightNonneg⟩ ordered

def regionBox (x y width height : Int) : Box := ⟨x, y, width.toNat, height.toNat⟩

/-- The rectangle that is overwritten at most. -/
def pastedBox (processing : ProcessingFunction) (parameters : Dict)
    (expandedSize : Json → Nat → Nat → Nat × Nat) (x y width height : Int) : Box :=
  let size := processing.sizeBound parameters expandedSize width.toNat height.toNat
  ⟨x, y, size.1, size.2⟩

/-- Whatever is overwritten of an image of this size lies in the region. -/
def Covered (processing : ProcessingFunction) (parameters : Dict)
    (expandedSize : Json → Nat → Nat → Nat × Nat) (x y width height : Int)
    (imageWidth imageHeight : Nat) : Prop :=
  ∀ i j, i < imageWidth → j < imageHeight →
    (pastedBox processing parameters expandedSize x y width height).Contains i j →
    (regionBox x y width height).Contains i j

theorem covered_of_not_expands {processing : ProcessingFunction} {parameters : Dict}
    (fits : processing.expands parameters = false) (x y width height : Int)
    (imageWidth imageHeight : Nat) :
    Covered processing parameters expandedSize x y width height imageWidth imageHeight := by
  intro i j _ _ inside
  unfold pastedBox ProcessingFunction.sizeBound at inside
  rw [fits] at inside
  exact inside

theorem covered_of_square (draws : pillow.Draws expandedSize) {processing : ProcessingFunction}
    {parameters : Dict} (quarter : parameters.getD (str "angle") (.int 90) = .int 90)
    (x y side : Int) (imageWidth imageHeight : Nat) :
    Covered processing parameters expandedSize x y side side imageWidth imageHeight := by
  intro i j _ _ inside
  unfold pastedBox ProcessingFunction.sizeBound at inside
  rw [quarter, draws.rightAngle, ite_self] at inside
  exact inside

theorem boxAt_contains {source : Raster Rgb} {size : Nat × Nat} {left upper : Int} {i j : Nat}
    (bounded : source.width ≤ size.1 ∧ source.height ≤ size.2)
    (inside : (source.boxAt left upper).Contains i j) :
    (⟨left, upper, size.1, size.2⟩ : Box).Contains i j := by
  unfold Box.Contains Raster.boxAt at *
  dsimp only at *
  omega

/-- One application keeps the size, and the frame if what is overwritten lies in
the region. -/
theorem applyToRegion_frame (draws : pillow.Draws expandedSize)
    (reads : ReadsRegion runtime region x y width height)
    (returned : applyToRegion runtime pillow.imaging call processing parameters region image trace =
      (.ok result, later)) :
    SameSize result image ∧
      (Covered processing parameters expandedSize x y width height image.width image.height →
        SameOutside (regionBox x y width height) image result) := by
  obtain ⟨_, _, processed, called, rfl, _⟩ := (applyToRegion_returns_iff draws reads).mp returned
  refine ⟨⟨rfl, rfl⟩, ?_⟩
  intro covered
  apply Raster.pasted_sameOutside
  intro i j inWidth inHeight inside
  exact covered i j inWidth inHeight (boxAt_contains (callWithKeywords_size draws called) inside)

/-- An image that is black in the region stays so, and what an expanding rotation
overwrites becomes black as well. -/
theorem applyToRegion_black (draws : pillow.Draws expandedSize)
    (reads : ReadsRegion runtime region x y width height)
    (expands : processing.expands parameters = true)
    (returned : applyToRegion runtime pillow.imaging call processing parameters region image trace =
      (.ok result, later)) {other : Raster Rgb}
    (filled : FilledIn black (regionBox x y width height) other) (again : List Call) :
    ∃ next after, applyToRegion runtime pillow.imaging call processing parameters region other
        again = (.ok next, after) ∧ SameSize next other ∧
      FilledIn black (regionBox x y width height) next ∧
      FilledIn black (pastedBox processing parameters expandedSize x y width height) next := by
  obtain ⟨widthNonneg, heightNonneg, processed, called, _, _⟩ :=
    (applyToRegion_returns_iff draws reads).mp returned
  have size : SameSize (image.cropped black (regionBox x y width height))
      (other.cropped black (regionBox x y width height)) := ⟨rfl, rfl⟩
  obtain ⟨rotated, rotatedOk, rotatedSize, rotatedBlack⟩ := callWithKeywords_expands draws expands
    called size (Raster.cropped_filled filled)
  have both : FilledIn black (regionBox x y width height) (other.pasted rotated x y) ∧
      FilledIn black (rotated.boxAt x y) (other.pasted rotated x y) :=
    Raster.pasted_filledIn filled rotatedBlack
  refine ⟨other.pasted rotated x y, again ++ [call], ?_, ⟨rfl, rfl⟩, both.1, ?_⟩
  · exact (applyToRegion_returns_iff draws reads).mpr
      ⟨widthNonneg, heightNonneg, rotated, rotatedOk, rfl, rfl⟩
  · have same : pastedBox processing parameters expandedSize x y width height =
        rotated.boxAt x y := by
      have sizes := Prod.mk.inj rotatedSize
      unfold pastedBox Raster.boxAt
      rw [sizes.1, sizes.2]
      rfl
    rw [same]
    exact both.2

theorem applyOnce_region (reads : ReadsRegion runtime region x y width height) (operation : Str) :
    applyOnce runtime pillow.imaging operation processing parameters region image =
      applyToRegion runtime pillow.imaging ⟨operation, true⟩ processing parameters region
        image := by
  cases region with
  | null => cases reads.x
  | bool | int | float | str | arr | obj => rfl

end Region

/-- The keyword arguments that are left of a step's parameters. -/
def keywordArguments (step : PipelineStep) : Dict :=
  (step.parameters.erase (str "repeat")).erase (str "region")

section Step

variable {step : PipelineStep} {processing : ProcessingFunction} {times x y width height : Int}
  {imageWidth imageHeight : Nat}

theorem applyPipelineStep_frame (draws : pillow.Draws expandedSize)
    (registered : operationRegistry.lookup step.operation = some processing)
    (counted : runtime.toInt (step.parameters.getD (str "repeat") (.int 1)) = .ok times)
    (reads : ReadsRegion runtime (step.parameters.getD (str "region") .null) x y width height)
    {image result : Raster Rgb} {trace later : List Call}
    (returned : applyPipelineStep runtime pillow.imaging step image trace = (.ok result, later)) :
    SameSize result image ∧
      (times ≤ 0 ∨ Covered processing (keywordArguments step) expandedSize x y width height
          image.width image.height →
        SameOutside (regionBox x y width height) image result) := by
  rw [applyPipelineStep_ok runtime pillow.imaging registered counted] at returned
  constructor
  · have keeps (value : Raster Rgb) (before : List Call) (next : Raster Rgb) (after : List Call)
        (size : SameSize value image)
        (applied : applyOnce runtime pillow.imaging step.operation processing
          (keywordArguments step) (step.parameters.getD (str "region") .null) value before =
          (.ok next, after)) :
        SameSize next image := by
      rw [applyOnce_region reads] at applied
      exact (applyToRegion_frame draws reads applied).1.trans size
    exact repeatTimes_keeps (fun value => SameSize value image) keeps ⟨rfl, rfl⟩ returned
  · rintro (never | covered)
    · have zero : times.toNat = 0 := by omega
      rw [zero] at returned
      cases returned
      exact .refl _ _
    · have keeps (value : Raster Rgb) (before : List Call) (next : Raster Rgb) (after : List Call)
          (kept : SameOutside (regionBox x y width height) image value)
          (applied : applyOnce runtime pillow.imaging step.operation processing
            (keywordArguments step) (step.parameters.getD (str "region") .null) value before =
            (.ok next, after)) : SameOutside (regionBox x y width height) image next := by
        rw [applyOnce_region reads] at applied
        have coveredValue : Covered processing (keywordArguments step) expandedSize x y width height
            value.width value.height := by
          rw [kept.size.1, kept.size.2]
          exact covered
        exact kept.trans ((applyToRegion_frame draws reads applied).2 coveredValue)
      exact repeatTimes_keeps (SameOutside (regionBox x y width height) image) keeps (.refl _ _)
        returned

/-- The black region in a white image, after any number of iterations of a step
whose rotations expand: all that is overwritten is black. -/
theorem applyPipelineStep_blackens (draws : pillow.Draws expandedSize)
    (registered : operationRegistry.lookup step.operation = some processing)
    (counted : runtime.toInt (step.parameters.getD (str "repeat") (.int 1)) = .ok times)
    (reads : ReadsRegion runtime (step.parameters.getD (str "region") .null) x y width height)
    (positive : 0 < times) (expands : processing.expands (keywordArguments step) = true)
    {image result : Raster Rgb} {trace later : List Call}
    (returned : applyPipelineStep runtime pillow.imaging step image trace = (.ok result, later))
    {start : Raster Rgb} (filled : FilledIn black (regionBox x y width height) start) :
    ∃ last finish, applyPipelineStep runtime pillow.imaging step start [] = (.ok last, finish) ∧
      SameSize last start ∧
      FilledIn black (pastedBox processing (keywordArguments step) expandedSize x y width height)
        last := by
  obtain ⟨more, count⟩ : ∃ more, times.toNat = more + 1 := ⟨times.toNat - 1, by omega⟩
  rw [applyPipelineStep_ok runtime pillow.imaging registered counted, count] at returned
  obtain ⟨_, _, applied, _⟩ := Traced.bind_eq_ok returned
  rw [applyOnce_region reads] at applied
  have iteration (value : Raster Rgb) (before : List Call)
      (known : SameSize value start ∧ FilledIn black (regionBox x y width height) value) :
      ∃ next after, applyOnce runtime pillow.imaging step.operation processing
          (keywordArguments step) (step.parameters.getD (str "region") .null) value before =
          (.ok next, after) ∧
        (SameSize next start ∧ FilledIn black (regionBox x y width height) next) ∧
        FilledIn black (pastedBox processing (keywordArguments step) expandedSize x y width
          height) next := by
    obtain ⟨next, after, again, size, inRegion, pasted⟩ :=
      applyToRegion_black draws reads expands applied known.2 before
    rw [applyOnce_region reads]
    exact ⟨next, after, again, ⟨size.trans known.1, inRegion⟩, pasted⟩
  -- the first iteration blackens the rectangle, the others keep it black
  obtain ⟨first, middle, once, known, blackened⟩ := iteration start [] ⟨⟨rfl, rfl⟩, filled⟩
  obtain ⟨last, finish, rest, ⟨size, _⟩, still⟩ := repeatTimes_returns _
    (fun value before (kept : (SameSize value start ∧
        FilledIn black (regionBox x y width height) value) ∧
        FilledIn black (pastedBox processing (keywordArguments step) expandedSize x y width
          height) value) => iteration value before kept.1) ⟨known, blackened⟩
  refine ⟨last, finish, ?_, size, still⟩
  rw [applyPipelineStep_ok runtime pillow.imaging registered counted, count]
  exact (Traced.bind_ok once).trans rest

/-- If the overwritten rectangle leaves the region inside the image, an image that
is black only in the region shows it. -/
theorem covered_of_frame (draws : pillow.Draws expandedSize)
    (registered : operationRegistry.lookup step.operation = some processing)
    (counted : runtime.toInt (step.parameters.getD (str "repeat") (.int 1)) = .ok times)
    (reads : ReadsRegion runtime (step.parameters.getD (str "region") .null) x y width height)
    (positive : 0 < times)
    (returns : ∃ image result trace later,
      applyPipelineStep runtime pillow.imaging step image trace = (.ok result, later))
    (frame : ∀ image result trace later, image.width = imageWidth → image.height = imageHeight →
      applyPipelineStep runtime pillow.imaging step image trace = (.ok result, later) →
      SameOutside (regionBox x y width height) image result) :
    Covered processing (keywordArguments step) expandedSize x y width height imageWidth
      imageHeight := by
  intro i j inWidth inHeight inPasted
  cases expands : processing.expands (keywordArguments step) with
  | false =>
      exact covered_of_not_expands expands x y width height _ _ i j inWidth inHeight inPasted
  | true =>
      let start := Raster.marked imageWidth imageHeight black white (regionBox x y width height)
      obtain ⟨image, result, trace, later, returned⟩ := returns
      obtain ⟨last, finish, ran, size, blackened⟩ := applyPipelineStep_blackens draws registered
        counted reads positive expands returned (Raster.marked_filledIn : FilledIn black _ start)
      by_contra outside
      have unmarked : start.pixel i j = white := if_neg outside
      have kept := (frame start last [] finish rfl rfl ran).pixel i j inWidth inHeight outside
      rw [blackened i j (by rw [size.1]; exact inWidth) (by rw [size.2]; exact inHeight) inPasted,
        unmarked] at kept
      exact absurd kept (by decide)

/-- Every step with a region keeps the size of the image. It keeps the pixels
outside the region, on all images of a size, exactly if it is not repeated at all
or if the rectangle it pastes meets the image only in the region. -/
theorem region_frame_iff (draws : pillow.Draws expandedSize)
    (registered : operationRegistry.lookup step.operation = some processing)
    (counted : runtime.toInt (step.parameters.getD (str "repeat") (.int 1)) = .ok times)
    (reads : ReadsRegion runtime (step.parameters.getD (str "region") .null) x y width height)
    (returns : ∃ image result trace later,
      applyPipelineStep runtime pillow.imaging step image trace = (.ok result, later)) :
    (∀ image result trace later,
      applyPipelineStep runtime pillow.imaging step image trace = (.ok result, later) →
      SameSize result image) ∧
    ((∀ image result trace later, image.width = imageWidth → image.height = imageHeight →
      applyPipelineStep runtime pillow.imaging step image trace = (.ok result, later) →
      SameOutside (regionBox x y width height) image result) ↔
    times ≤ 0 ∨ Covered processing (keywordArguments step) expandedSize x y width height
      imageWidth imageHeight) := by
  constructor
  · intro image result trace later returned
    exact (applyPipelineStep_frame draws registered counted reads returned).1
  · constructor
    · intro frame
      rcases le_or_gt times 0 with never | positive
      · exact .inl never
      · exact .inr (covered_of_frame draws registered counted reads positive returns frame)
    · rintro condition image result trace later rfl rfl returned
      exact (applyPipelineStep_frame draws registered counted reads returned).2 condition

end Step

/-! ### A quarter turn -/

/-- An expanding rotation by 90 degrees, counter-clockwise. -/
def quarterTurn (image : Raster Rgb) : Raster Rgb :=
  { width := image.height
    height := image.width
    pixel := fun i j => image.pixel (image.width - 1 - j) i }

theorem quarterTurn_filled {image : Raster Rgb} (filled : Filled black image) :
    Filled black (quarterTurn image) := by
  intro i j inWidth inHeight
  unfold quarterTurn at inWidth inHeight ⊢
  dsimp only at inWidth inHeight ⊢
  apply filled
  · omega
  · exact inWidth

def isRightAngle : Json → Bool
  | .int value => value = 90
  | _ => false

/-- Pillow where it only cuts, pastes and turns right angles. -/
def turningPillow : Pillow (Raster Rgb) :=
  { openImage := fun _ => .error .other
    convertRgb := .ok
    copy := .ok
    crop := fun image left upper right lower =>
      if right < left ∨ lower < upper then .error .valueError
      else .ok (image.cropped black ⟨left, upper, (right - left).toNat, (lower - upper).toNat⟩)
    paste := fun image source left upper => .ok (image.pasted source left upper)
    savePng := fun _ => .error .other
    thumbnail := fun image _ _ => .ok image
    grayscale := .ok
    filter := fun image _ => .ok image
    rotate := fun image angle expand =>
      .ok (if isRightAngle angle && truthy expand then quarterTurn image else image)
    enhance := fun _ image _ => .ok image }

def turnedSize (angle : Json) (width height : Nat) : Nat × Nat :=
  if isRightAngle angle then (height, width) else (width, height)

theorem turningPillow_draws : turningPillow.Draws turnedSize := by
  have kept (image result : Raster Rgb)
      (returned : (Except.ok image : Except Exn (Raster Rgb)) = .ok result) :
      SameSize result image := by
    cases returned
    exact ⟨rfl, rfl⟩
  constructor
  · intro image
    rfl
  · intro image box
    have ordered : ¬ (box.left + box.width < box.left ∨ box.upper + box.height < box.upper) := by
      omega
    refine (if_neg ordered).trans ?_
    rw [add_sub_cancel_left, add_sub_cancel_left, Int.toNat_natCast, Int.toNat_natCast]
  · intro image left upper right lower outOfOrder
    exact ⟨.valueError, if_pos outOfOrder⟩
  · intro image source left upper
    rfl
  · intro image width height result returned
    cases returned
    exact ⟨le_refl _, le_refl _⟩
  · exact kept
  · exact kept
  · intro image kernel
    exact kept image
  · intro enhancer image factor
    exact kept image
  · intro image angle expand result returned
    cases returned
    unfold turnedSize
    cases right : isRightAngle angle
    all_goals
      cases given : truthy expand
      all_goals simp [quarterTurn]
  · intro image angle expand result returned filled
    cases returned
    split
    · exact quarterTurn_filled filled
    · exact filled
  · intro image other angle expand result _ _
    exact ⟨_, rfl⟩
  · intro width height
    rfl

def leftColumn : Json :=
  .obj [(str "x", .int 0), (str "y", .int 0), (str "width", .int 1), (str "height", .int 2)]

/-- `{"operation":"rotate","parameters":{"region":{"x":0,"y":0,"width":1,"height":2}}}`. -/
def rotateColumn : PipelineStep := ⟨str "rotate", [(str "region", leftColumn)]⟩

theorem leftColumn_reads :
    ReadsRegion plainRuntime (rotateColumn.parameters.getD (str "region") .null) 0 0 1 2 := by
  constructor <;> decide +kernel

/-- Two by two, black on the left. -/
def halfBlack : Raster Rgb := Raster.marked 2 2 black white (regionBox 0 0 1 2)

/-- The same with its left column turned, over the upper row. -/
def turnedOver : Raster Rgb :=
  halfBlack.pasted (quarterTurn (halfBlack.cropped black ⟨0, 0, 1, 2⟩)) 0 0

theorem rotateColumn_counted :
    plainRuntime.toInt (rotateColumn.parameters.getD (str "repeat") (.int 1)) = .ok 1 := by
  decide +kernel

theorem rotateColumn_registered :
    operationRegistry.lookup rotateColumn.operation = some .rotateImage := by
  decide +kernel

theorem rotateColumn_returns :
    applyPipelineStep plainRuntime turningPillow.imaging rotateColumn halfBlack [] =
      (.ok turnedOver, [⟨str "rotate", true⟩]) := by
  have noKeywords : keywordArguments rotateColumn = [] := by decide +kernel
  have once : applyOnce plainRuntime turningPillow.imaging rotateColumn.operation .rotateImage
      (keywordArguments rotateColumn) (rotateColumn.parameters.getD (str "region") .null) halfBlack
      [] = (.ok turnedOver, [⟨str "rotate", true⟩]) := by
    rw [applyOnce_region leftColumn_reads, noKeywords]
    apply (applyToRegion_returns_iff turningPillow_draws leftColumn_reads).mpr
    exact ⟨by decide, by decide, _, rfl, rfl, rfl⟩
  rw [applyPipelineStep_ok plainRuntime _ rotateColumn_registered rotateColumn_counted]
  exact Traced.bind_ok once

/-- The upper right pixel is not in the region, and turns from white to black. -/
theorem rotateColumn_leaves_region :
    applyPipelineStep plainRuntime turningPillow.imaging rotateColumn halfBlack [] =
        (.ok turnedOver, [⟨str "rotate", true⟩]) ∧
      ¬ (regionBox 0 0 1 2).Contains 1 0 ∧ halfBlack.pixel 1 0 = white ∧
      turnedOver.pixel 1 0 = black ∧ ¬ SameOutside (regionBox 0 0 1 2) halfBlack turnedOver := by
  have unlike : turnedOver.pixel 1 0 ≠ halfBlack.pixel 1 0 := by decide
  refine ⟨rotateColumn_returns, by decide, by decide, by decide, ?_⟩
  intro same
  exact unlike (same.pixel 1 0 (by decide) (by decide) (by decide))

theorem region_frame_iff_turned :
    (∀ image result trace later, image.width = 2 → image.height = 2 →
      applyPipelineStep plainRuntime turningPillow.imaging rotateColumn image trace =
        (.ok result, later) →
      SameOutside (regionBox 0 0 1 2) image result) ↔
    (1 : Int) ≤ 0 ∨ Covered .rotateImage (keywordArguments rotateColumn) turnedSize 0 0 1 2 2 2 :=
  (region_frame_iff turningPillow_draws rotateColumn_registered rotateColumn_counted
    leftColumn_reads ⟨halfBlack, turnedOver, [], _, rotateColumn_returns⟩).2

end ImagePipeline.Properties.RegionFrame
