import DirectionField.Grid
import DirectionField.RungeKutta
/-!
# Arrows

A sample is drawn as a segment of fixed length, centred on it, whose direction has the slope of the
sample. All segments form one line with a gap after each.
-/

namespace DirectionField

/-- The coordinates of a line; a missing coordinate parts it. -/
structure Polyline (α : Type) where
  xs : List (Option α)
  ys : List (Option α)

namespace Polyline

variable {α : Type}

def empty : Polyline α := ⟨[], []⟩

def append (a b : Polyline α) : Polyline α := ⟨a.xs ++ b.xs, a.ys ++ b.ys⟩

/-- The line through some points. -/
def ofPoints (ps : List (Point α)) : Polyline α :=
  ⟨ps.map fun p => some p.x, ps.map fun p => some p.y⟩

end Polyline

namespace Arrows

variable {α : Type} [Arithmetic α] [Trigonometry α]

open Trigonometry (atan cos sin)

/-- The segment of one sample, with half the length given. -/
def segment (half : α) (s : Sample α) : Polyline α :=
  let angle := atan s.slope
  let dx := half * cos angle
  let dy := half * sin angle
  ⟨[some (s.x - dx), some (s.x + dx), none], [some (s.y - dy), some (s.y + dy), none]⟩

/-- The segments of the samples. -/
def segments (samples : List (Sample α)) (length : α) : Polyline α :=
  let half := length / Arithmetic.ofInt 2
  let parts := samples.map (segment half)
  ⟨parts.flatMap (·.xs), parts.flatMap (·.ys)⟩

end Arrows

end DirectionField
