import DirectionField.Compile
import DirectionField.Curve
import DirectionField.Defaults
import DirectionField.Grid
import DirectionField.Journal
import DirectionField.Effect
/-!
# The field session

An equation, settings, and a growing store of coloured solution curves. An equation that is rejected
is replaced by the flat field. Curves are kept as they are when the equation or the settings change;
their numbers are never used twice.
-/

namespace DirectionField

structure Field (α : Type) where
  settings : Settings α
  paletteSize : Nat
  stage : Stage
  equation : String
  function : Option (Slope α)
  curves : List (Curve α)
  nextId : Nat

namespace Field

variable {ε α : Type}

/-- Why the equation of the session is rejected, if it is. -/
def compileError (s : Field α) : Option String := s.function.bind (·.error)

variable [Numeral α]

/-- A session without an equation. There is at least one colour. -/
def fresh (settings : Settings α) (paletteSize : Int) : Except Fault (Field α) :=
  if paletteSize < 1 then .error .emptyPalette
  else .ok ⟨settings, paletteSize.toNat, .idle, "", none, [], 1⟩

/-- Takes over an equation; one that is rejected gives the flat field. -/
def setEquation (C : Calculus ε α) (s : Field α) (raw : Option String) :
    Effect (Field α) α (Slope α) :=
  let text := raw.getD ""
  let s := { s with stage := .compiling, equation := text }
  match C.compileOrFlat (some text) with
  | .error e => ⟨s, .error e, []⟩
  | .ok (f, rejected) =>
    let stage := if f.isFallback then Stage.compileError else .ready
    ⟨{ s with function := some f, stage := stage }, .ok f,
      (rejected.map fun e => .fellBack e.message).toList ++ [.equationSet text stage]⟩

/-- The slope function of the session; without one its equation is compiled first. -/
def ensureCompiled (C : Calculus ε α) (s : Field α) : Effect (Field α) α (Slope α) :=
  match s.function with
  | some f => ⟨s, .ok f, []⟩
  | none => s.setEquation C (some s.equation)

def setSettings (s : Field α) (settings : Settings α) : Field α := { s with settings := settings }

/-- The colour that the next curve gets. -/
def nextColor (s : Field α) : Nat := s.curves.length % s.paletteSize

/-- Stores the curve of two runs. -/
def store (s : Field α) (seed : Point α) (backward forward : Run α) : Field α × Curve α :=
  let c := Curve.splice s.nextId s.nextColor seed backward forward
  ({ s with curves := s.curves ++ [c], nextId := s.nextId + 1 }, c)

/-- The run from a seed in the rectangle of the session, to the right or to the left. -/
def sideRun (s : Field α) (f : Slope α) (x₀ y₀ : Datum α) (direction : Int) :
    Except Fault (Run α) :=
  Run.box f.value x₀ y₀ s.settings.step s.settings (.whole direction) .missing

/-- Adds the curve of a slope function through a seed. -/
def addCurveOf (s : Field α) (f : Slope α) (x₀ y₀ : Datum α) : Effect (Field α) α (Curve α) :=
  match s.sideRun f x₀ y₀ 1 with
  | .error e => ⟨s, .error e, []⟩
  | .ok forward =>
    match s.sideRun f x₀ y₀ (-1) with
    | .error e => ⟨s, .error e, forward.boxEvents⟩
    | .ok backward =>
      let events := forward.boxEvents ++ backward.boxEvents
      match x₀.toNumber, y₀.toNumber with
      | .ok x, .ok y =>
        let (s, c) := s.store ⟨x, y⟩ backward forward
        ⟨s, .ok c, events ++ [.curveAdded (s.nextId - 1) x₀ y₀ c.size]⟩
      | .error e, _ | _, .error e => ⟨s, .error e, events⟩

/-- Adds the curve through a seed. -/
def addCurve (C : Calculus ε α) (s : Field α) (x₀ y₀ : Datum α) : Effect (Field α) α (Curve α) :=
  (s.ensureCompiled C).bind fun s f => s.addCurveOf f x₀ y₀

/-- Removes a curve by its number; tells whether there was one. -/
def removeCurve (s : Field α) (id : Datum α) : Field α × Bool :=
  let test (c : Curve α) : Bool := (Datum.whole c.id).isEqual id
  ({ s with curves := s.curves.eraseP test }, s.curves.any test)

def clearCurves (s : Field α) : Field α := { s with curves := [] }

def summaries (s : Field α) : List (Curve.Summary α) := s.curves.map Curve.summary

/-- The samples of the field in a rectangle, that of the settings when none is given. -/
def sample (C : Calculus ε α) (s : Field α) (bounds density : Datum α) :
    Effect (Field α) α (List (Sample α)) :=
  (s.ensureCompiled C).bind fun s f =>
    let bounds := if bounds.isMissing then .list s.settings.bounds else bounds
    ⟨s, Grid.sample f.evaluate bounds density none, []⟩

/-! ## Commands -/

inductive Command (α : Type) where
  | setEquation (raw : Option String)
  | setSettings (settings : Settings α)
  | addCurve (x₀ y₀ : Datum α)
  | removeCurve (id : Datum α)
  | clearCurves
  | curves
  | summaries
  | sample (bounds density : Datum α)

/-- The session after a command, whether or not it was carried out. -/
def step (C : Calculus ε α) (s : Field α) : Command α → Field α
  | .setEquation raw => (s.setEquation C raw).session
  | .setSettings settings => s.setSettings settings
  | .addCurve x₀ y₀ => (s.addCurve C x₀ y₀).session
  | .removeCurve id => (s.removeCurve id).1
  | .clearCurves => s.clearCurves
  | .curves | .summaries => s
  | .sample bounds density => (s.sample C bounds density).session

/-- The session after a list of commands. -/
def after (C : Calculus ε α) (s : Field α) (commands : List (Command α)) : Field α :=
  commands.foldl (step C) s

end Field

end DirectionField
