import DirectionField.Datum
/-!
# Settings of a run

The viewing rectangle and the step settings, kept as they were given. Settings are only made
checked: both ranges run upwards, the step is positive, and at least one step is allowed.
-/

namespace DirectionField

structure Settings (α : Type) where
  xMin : Datum α
  xMax : Datum α
  yMin : Datum α
  yMax : Datum α
  step : Datum α
  maxSteps : Datum α

namespace Settings

variable {α : Type} [Numeral α]

/-- The settings that a session starts with. -/
def standard : Settings α where
  xMin := .real (Arithmetic.ofInt (-5))
  xMax := .real (Arithmetic.ofInt 5)
  yMin := .real (Arithmetic.ofInt (-5))
  yMax := .real (Arithmetic.ofInt 5)
  step := .real 0.05
  maxSteps := .whole 500

def checkRange (axis : Axis) (low high : Datum α) : Except Fault Unit := do
  if !(← low.lt high) then .error (.emptyRange axis low.toText high.toText)

def checkStep (h : Datum α) : Except Fault Unit := do
  if !(← (Datum.whole 0).lt h) then .error (.stepNotPositive h.toText)

def checkMaxSteps (n : Datum α) : Except Fault Unit := do
  if (← n.toWhole) < 1 then .error (.tooFewSteps n.toText)

/-- The settings if they are admissible. -/
def checked (s : Settings α) : Except Fault (Settings α) := do
  checkRange .x s.xMin s.xMax
  checkRange .y s.yMin s.yMax
  checkStep s.step
  checkMaxSteps s.maxSteps
  return s

/-- The fields by name, for settings that are given field by field. -/
def setField (s : Settings α) (name : String) (d : Datum α) : Except Fault (Settings α) :=
  match name with
  | "x_min" => .ok { s with xMin := d }
  | "x_max" => .ok { s with xMax := d }
  | "y_min" => .ok { s with yMin := d }
  | "y_max" => .ok { s with yMax := d }
  | "h" => .ok { s with step := d }
  | "max_steps" => .ok { s with maxSteps := d }
  | _ => .error .mismatch

/-- Settings with some fields given and the others as at the start. -/
def ofFields (fields : List (String × Datum α)) : Except Fault (Settings α) := do
  (← fields.foldlM (fun s (name, d) => s.setField name d) standard).checked

/-- The ranges of `x` and `y`. -/
def bounds (s : Settings α) : List (Datum α) := [s.xMin, s.xMax, s.yMin, s.yMax]

/-- Whether a point lies in the rectangle, its border included. -/
def contains (s : Settings α) (x y : Datum α) : Except Fault Bool := do
  if !(← s.xMin.le x) then return false
  if !(← x.le s.xMax) then return false
  if !(← s.yMin.le y) then return false
  y.le s.yMax

/-- The settings with another rectangle. -/
def withBounds (s : Settings α) (bounds : List (Datum α)) : Except Fault (Settings α) :=
  match bounds with
  | [a, b, c, d] => do
    let xMin ← a.toNumber
    let xMax ← b.toNumber
    let yMin ← c.toNumber
    let yMax ← d.toNumber
    { s with
      xMin := .real xMin, xMax := .real xMax, yMin := .real yMin, yMax := .real yMax }.checked
  | _ => .error .mismatch

/-- The settings with another step and another number of steps; what is missing stays. -/
def withStep (s : Settings α) (h maxSteps : Datum α) : Except Fault (Settings α) := do
  let step ← if h.isMissing then .ok s.step else h.toNumber.map .real
  let limit ← if maxSteps.isMissing then .ok s.maxSteps else maxSteps.toWhole.map .whole
  { s with step := step, maxSteps := limit }.checked

/-- The settings with step settings given by name. -/
def withStepFields (s : Settings α) (fields : List (String × Datum α)) :
    Except Fault (Settings α) :=
  if fields.all fun f => f.1 == "h" || f.1 == "max_steps" then
    s.withStep ((fields.lookup "h").getD .missing) ((fields.lookup "max_steps").getD .missing)
  else .error .mismatch

/-- Settings cannot be changed in place. -/
def assign (_ : Settings α) (_ : String) (_ : Datum α) : Except Fault (Settings α) :=
  .error .readOnly

def isEqual (s t : Settings α) : Bool :=
  s.xMin.isEqual t.xMin && s.xMax.isEqual t.xMax && s.yMin.isEqual t.yMin &&
    s.yMax.isEqual t.yMax && s.step.isEqual t.step && s.maxSteps.isEqual t.maxSteps

end Settings

end DirectionField
