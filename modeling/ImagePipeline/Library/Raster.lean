/-
Rectangular images over any kind of pixel: cutting a box out of one, pasting one
into another, and what is left alone outside a box.
-/

import Mathlib.Data.Int.Order.Basic

namespace ImagePipeline.Library

structure Raster (P : Type) where
  width : Nat
  height : Nat
  pixel : Nat → Nat → P

/-- A rectangle whose corner may lie anywhere. -/
structure Box where
  left : Int
  upper : Int
  width : Nat
  height : Nat

def Box.Contains (box : Box) (i j : Nat) : Prop :=
  box.left ≤ i ∧ (i : Int) < box.left + box.width ∧
    box.upper ≤ j ∧ (j : Int) < box.upper + box.height

instance (box : Box) (i j : Nat) : Decidable (box.Contains i j) := by
  unfold Box.Contains
  infer_instance

namespace Raster

variable {P : Type}

/-- The pixel at a point of the plane; there is `fill` outside the image. -/
def readAt (image : Raster P) (fill : P) (x y : Int) : P :=
  if 0 ≤ x ∧ x < image.width ∧ 0 ≤ y ∧ y < image.height then image.pixel x.toNat y.toNat else fill

/-- The box cut out, as large as it is, wherever it is. -/
def cropped (image : Raster P) (fill : P) (box : Box) : Raster P :=
  { width := box.width
    height := box.height
    pixel := fun i j => image.readAt fill (box.left + i) (box.upper + j) }

/-- Where an image lands that is pasted at a corner. -/
def boxAt (source : Raster P) (left upper : Int) : Box := ⟨left, upper, source.width, source.height⟩

/-- The whole rectangle of `source` is overwritten, as far as it is inside. -/
def pasted (image source : Raster P) (left upper : Int) : Raster P :=
  { image with
    pixel := fun i j =>
      if (source.boxAt left upper).Contains i j then
        source.pixel (i - left).toNat (j - upper).toNat
      else image.pixel i j }

def SameSize (left right : Raster P) : Prop :=
  left.width = right.width ∧ left.height = right.height

theorem SameSize.trans {first second third : Raster P} (left : SameSize first second)
    (right : SameSize second third) : SameSize first third :=
  ⟨left.1.trans right.1, left.2.trans right.2⟩

/-- The size, and all pixels outside the box, are what they were. -/
structure SameOutside (box : Box) (before after : Raster P) : Prop where
  size : SameSize after before
  pixel : ∀ i j, i < before.width → j < before.height → ¬ box.Contains i j →
    after.pixel i j = before.pixel i j

theorem SameOutside.refl (box : Box) (image : Raster P) : SameOutside box image image :=
  ⟨⟨rfl, rfl⟩, fun _ _ _ _ _ => rfl⟩

theorem SameOutside.trans {box : Box} {first second third : Raster P}
    (earlier : SameOutside box first second) (later : SameOutside box second third) :
    SameOutside box first third := by
  refine ⟨later.size.trans earlier.size, ?_⟩
  intro i j inWidth inHeight outside
  rw [later.pixel i j (by rw [earlier.size.1]; exact inWidth)
    (by rw [earlier.size.2]; exact inHeight) outside, earlier.pixel i j inWidth inHeight outside]

theorem pasted_sameOutside {box : Box} {image source : Raster P} {left upper : Int}
    (covered : ∀ i j, i < image.width → j < image.height →
      (source.boxAt left upper).Contains i j → box.Contains i j) :
    SameOutside box image (image.pasted source left upper) := by
  refine ⟨⟨rfl, rfl⟩, ?_⟩
  intro i j inWidth inHeight outside
  exact if_neg fun inside => outside (covered i j inWidth inHeight inside)

def FilledIn (fill : P) (box : Box) (image : Raster P) : Prop :=
  ∀ i j, i < image.width → j < image.height → box.Contains i j → image.pixel i j = fill

def Filled (fill : P) (image : Raster P) : Prop :=
  ∀ i j, i < image.width → j < image.height → image.pixel i j = fill

theorem cropped_filled {fill : P} {box : Box} {image : Raster P}
    (filled : FilledIn fill box image) : Filled fill (image.cropped fill box) := by
  intro i j inWidth inHeight
  change i < box.width at inWidth
  change j < box.height at inHeight
  change image.readAt fill (box.left + i) (box.upper + j) = fill
  unfold readAt
  split
  · rename_i inside
    apply filled
    · omega
    · omega
    · unfold Box.Contains
      omega
  · rfl

theorem pasted_filledIn {fill : P} {box : Box} {image source : Raster P} {left upper : Int}
    (filled : FilledIn fill box image) (sourceFilled : Filled fill source) :
    FilledIn fill box (image.pasted source left upper) ∧
      FilledIn fill (source.boxAt left upper) (image.pasted source left upper) := by
  have landed (i j : Nat) (inside : (source.boxAt left upper).Contains i j) :
      (image.pasted source left upper).pixel i j = fill := by
    refine (if_pos inside).trans ?_
    unfold Box.Contains boxAt at inside
    dsimp only at inside
    apply sourceFilled
    · omega
    · omega
  constructor
  · intro i j inWidth inHeight inBox
    by_cases inside : (source.boxAt left upper).Contains i j
    · exact landed i j inside
    · exact (if_neg inside).trans (filled i j inWidth inHeight inBox)
  · intro i j _ _ inside
    exact landed i j inside

/-- `fill` in the box and another value elsewhere. -/
def marked (width height : Nat) (fill other : P) (box : Box) : Raster P :=
  { width := width
    height := height
    pixel := fun i j => if box.Contains i j then fill else other }

theorem marked_filledIn {width height : Nat} {fill other : P} {box : Box} :
    FilledIn fill box (marked width height fill other box) :=
  fun _ _ _ _ inside => if_pos inside

end Raster

end ImagePipeline.Library
