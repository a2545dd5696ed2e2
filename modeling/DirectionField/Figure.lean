import DirectionField.Arrows
import DirectionField.Curve
import DirectionField.Defaults
/-!
# Figures

A figure is a list of traces over two axes. The figure of a slope field has the arrows first, then a
marker on each sample, then a line and a seed marker for each curve. The figure of a trajectory has
the run and, for comparison, a reference.
-/

namespace DirectionField

inductive Mode where
  | lines | markers | both
  deriving DecidableEq, Repr

/-- What the pointer shows on a trace. -/
inductive Hover where
  | none
  | skip
  | template (text : String)
  deriving DecidableEq, Repr

structure LineStyle (α : Type) where
  color : Option String
  width : Option α
  dashed : Bool

structure MarkerStyle (α : Type) where
  color : Option String
  size : α
  opacity : Option α

structure Trace (α : Type) where
  points : Polyline α
  /-- Values that go with the points. -/
  values : Option (List α)
  mode : Mode
  name : Option String
  line : Option (LineStyle α)
  marker : Option (MarkerStyle α)
  hover : Hover
  inLegend : Bool

structure Axis.Setting (α : Type) where
  title : String
  showGrid : Bool
  range : Option (α × α)

structure Figure (α : Type) where
  traces : List (Trace α)
  xAxis : Axis.Setting α
  yAxis : Axis.Setting α
  legendTitle : Option String

namespace Figure

/-- The margins of a figure: left, right, top, bottom. -/
def margins : Nat × Nat × Nat × Nat := (40, 20, 60, 40)

/-- The place of the trace with the markers on the samples. -/
def gridTrace : Nat := 1

variable {α : Type}

def axis (title : String) (range : Option (α × α)) : Axis.Setting α := ⟨title, true, range⟩

/-- The largest natural number whose square is at most `n`. -/
def root (n : Nat) : Nat := go n 0
where
  go : Nat → Nat → Nat
    | 0, k => k
    | fuel + 1, k => if (k + 1) * (k + 1) ≤ n then go fuel (k + 1) else k

/-- What the pointer shows on the line of a curve or run. -/
def pointTemplate (label : String) : String :=
  "x=%\x7bx\x7d<br>y=%\x7by\x7d<extra>" ++ label ++ "</extra>"

/-- What the pointer shows on a sample. -/
def sampleTemplate : String :=
  "x=%\x7bx:.3g\x7d<br>y=%\x7by:.3g\x7d<br>slope=%\x7bcustomdata:.3g\x7d<extra></extra>"

section Arithmetic

variable [Arithmetic α]

open DirectionField.Arithmetic (ofInt)

/-- The length of an arrow as a part of the shorter side of the rectangle, on a fine grid. -/
def arrowFraction : α := ofInt 1 / ofInt 50

/-- The length of the arrows of so many samples in a rectangle: a little longer on a coarse grid. -/
def arrowLength (r : Grid.Rectangle α) (count : Nat) : α :=
  let span := Arithmetic.min (r.xMax - r.xMin) (r.yMax - r.yMin)
  let density := Nat.max 1 (root count)
  Arithmetic.max (arrowFraction * span) (0.6 * span / ofInt density)

/-- The arrows of a slope field. -/
def arrowTrace [Trigonometry α] (samples : List (Sample α)) (length : α) : Trace α where
  points := Arrows.segments samples length
  values := none
  mode := .lines
  name := some "Slope field"
  line := some ⟨some "rgba(100,100,100,0.7)", some (ofInt 1), false⟩
  marker := none
  hover := .skip
  inLegend := false

/-- The markers on the samples, which cannot be seen. -/
def sampleTrace (samples : List (Sample α)) : Trace α where
  points := ⟨samples.map fun s => some s.x, samples.map fun s => some s.y⟩
  values := some (samples.map (·.slope))
  mode := .markers
  name := some "grid"
  line := none
  marker := some ⟨none, ofInt 8, some (ofInt 0)⟩
  hover := .template sampleTemplate
  inLegend := false

def curveName (c : Curve α) : String := "Curve " ++ toString c.id

def curveTrace (color : String) (c : Curve α) : Trace α where
  points := .ofPoints c.points
  values := none
  mode := .lines
  name := some (curveName c)
  line := some ⟨some color, some 2.5, false⟩
  marker := none
  hover := .template (pointTemplate (curveName c))
  inLegend := true

def seedTrace (color : String) (c : Curve α) : Trace α where
  points := .ofPoints [c.seed]
  values := none
  mode := .markers
  name := none
  line := none
  marker := some ⟨some color, ofInt 8, none⟩
  hover := .skip
  inLegend := false

/-- The colour of a curve; the palette is used in turn and must not be empty. -/
def color (palette : List String) (c : Curve α) : Except Fault String :=
  match palette[(c.colorIndex % palette.length).toNat]? with
  | some s => .ok s
  | none => .error .divisionByZero

/-- The figure of a slope field in a rectangle. -/
def slopeField [Trigonometry α] (samples : List (Sample α)) (r : Grid.Rectangle α)
    (curves : List (Curve α)) (palette : List String) : Except Fault (Figure α) := do
  let drawn ← curves.mapM fun c => do
    let s ← color palette c
    return [curveTrace s c, seedTrace s c]
  return {
    traces := arrowTrace samples (arrowLength r samples.length) :: sampleTrace samples ::
      drawn.flatten
    xAxis := axis "x" (some (r.xMin, r.xMax))
    yAxis := axis "y" (some (r.yMin, r.yMax))
    legendTitle := none }

/-- The figure of a run, with a reference unless that is empty. -/
def trajectory (points reference : List (Point α)) (label : String) : Figure α :=
  let run : Trace α :=
    { points := .ofPoints points
      values := none
      mode := .both
      name := some label
      line := none
      marker := some ⟨none, ofInt 4, none⟩
      hover := .template (pointTemplate label)
      inLegend := true }
  let comparison : Trace α :=
    { points := .ofPoints reference
      values := none
      mode := .lines
      name := some "Reference (DOP853)"
      line := some ⟨none, none, true⟩
      marker := none
      hover := .none
      inLegend := true }
  { traces := run :: (if reference.isEmpty then [] else [comparison])
    xAxis := axis "x" none
    yAxis := axis "y" none
    legendTitle := some "Solution" }

end Arithmetic

variable [Numeral α]

/-- A number that is to be drawn; texts that read as numbers are none. -/
def drawn (d : Datum α) : Except Fault α := if d.isNumber then d.toNumber else .error .mismatch

/-- A sample that is to be drawn. -/
def sampleOf (d : Datum α) : Except Fault (Sample α) :=
  match d with
  | .list [x, y, s] => do return ⟨← drawn x, ← drawn y, ← drawn s⟩
  | _ => .error .mismatch

/-- A rectangle that is to be drawn: exactly four numbers. -/
def rectangleOf (bounds : Datum α) : Except Fault (Grid.Rectangle α) := do
  match ← Grid.parts bounds with
  | [a, b, c, d] => return ⟨← drawn a, ← drawn b, ← drawn c, ← drawn d⟩
  | _ => .error .unreadable

end Figure

end DirectionField
