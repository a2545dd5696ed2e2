import DirectionField.Trajectory
/-!
# Solution curves

A curve through a seed is the run to the left of it, turned round, followed by the run to the right;
the seed occurs once.
-/

namespace DirectionField

structure Curve (α : Type) where
  id : Int
  seed : Point α
  points : List (Point α)
  /-- The place of the curve's colour in the palette. -/
  colorIndex : Int
  /-- The place of the seed among the points. -/
  seedIndex : Nat

namespace Curve

variable {α : Type}

def size (c : Curve α) : Nat := c.points.length

/-- The points of a backward run in front of the seed, from left to right. -/
def leftOf (backward : Run α) : List (Point α) := (backward.points.drop 1).reverse

/-- The curve that two runs from a seed form. -/
def splice (id : Int) (colorIndex : Int) (seed : Point α) (backward forward : Run α) : Curve α where
  id := id
  seed := seed
  points := leftOf backward ++ forward.points
  colorIndex := colorIndex
  seedIndex := (leftOf backward).length

/-- A line of the list of curves. -/
structure Summary (α : Type) where
  id : Int
  points : Nat
  colorIndex : Int
  seed : Point α

def summary (c : Curve α) : Summary α := ⟨c.id, c.size, c.colorIndex, c.seed⟩

end Curve

end DirectionField
