import DirectionField.Compile
import DirectionField.Effect
import DirectionField.Text.Compact
/-!
# The solver session

One run at a time over an interval, explained in steps. A solution is kept until the next equation
is solved; an equation that is rejected or a step that is not positive leaves a failed solution, and
a blank equation changes nothing.
-/

namespace DirectionField

/-- A line of the explanation of a solution. -/
structure Step where
  index : Int
  description : String
  resultText : String
  kind : String
  deriving DecidableEq, Repr

namespace Step

def infoKind : String := "info"

def errorKind : String := "error"

def info (index : Int) (description resultText : String) : Step :=
  ⟨index, description, resultText, infoKind⟩

def isError (s : Step) : Bool := s.kind == errorKind

end Step

/-- The outcome of solving an equation. -/
structure Solution (α : Type) where
  trajectory : List (Point α)
  steps : List Step
  error : Option String

namespace Solution

variable {α : Type}

def isOk (s : Solution α) : Bool := s.error.isNone

def failed (message : String) : Solution α :=
  ⟨[], [⟨1, "Error", message, Step.errorKind⟩], some message⟩

end Solution

structure Solver (α : Type) where
  maxSteps : Datum α
  stage : Stage
  function : Option (Slope α)
  solution : Option (Solution α)

namespace Solver

variable {ε α : Type}

/-- A session that has solved nothing yet. -/
def fresh (maxSteps : Datum α) : Solver α := ⟨maxSteps, .idle, none, none⟩

def trajectory (s : Solver α) : List (Point α) := (s.solution.map (·.trajectory)).getD []

def steps (s : Solver α) : List Step := (s.solution.map (·.steps)).getD []

/-- The session with a failed solution. -/
def fail (s : Solver α) (message : String) (stage : Stage) : Solver α :=
  { s with stage := stage, solution := some (.failed message) }

variable [Numeral α]

open Text (compact6)

/-- A problem as numbers: the seed, the end of the interval and the step. -/
structure Problem (α : Type) where
  seed : Point α
  xEnd : α
  h : α

def problem (x₀ y₀ xEnd h : Datum α) : Except Fault (Problem α) := do
  let x ← x₀.toNumber
  let y ← y₀.toNumber
  let e ← xEnd.toNumber
  let w ← h.toNumber
  return ⟨⟨x, y⟩, e, w⟩

/-- The explanation of a run. -/
def explanation (equation : String) (p : Problem α) (r : Run α) : List Step :=
  let last := (r.points.getLast?).getD p.seed
  [.info 1 "Parse the equation" ("dy/dx = " ++ Equation.body (some equation)),
    .info 2 "Apply the initial condition"
      ("y(" ++ compact6 p.seed.x ++ ") = " ++ compact6 p.seed.y),
    .info 3 "Integrate with classical Runge-Kutta (RK4)"
      ("h = " ++ compact6 p.h ++ " on [" ++ compact6 p.seed.x ++ ", " ++ compact6 p.xEnd ++ "]"),
    .info 4 "Done"
      (toString r.steps ++ " steps, " ++ toString r.points.length ++ " points; y(" ++
        compact6 last.x ++ ") ≈ " ++ compact6 last.y)]

/-- Runs a compiled equation. The session holds the function already. -/
def run (s : Solver α) (equation : String) (f : Slope α) (x₀ y₀ xEnd h : Datum α) :
    Effect (Solver α) α (Option (Solution α)) :=
  match problem x₀ y₀ xEnd h with
  | .error e => ⟨s, .error e, []⟩
  | .ok p =>
    if !Arithmetic.lt (Arithmetic.ofInt 0) p.h then
      let s := s.fail ("Step size must be positive, got " ++ compact6 p.h ++ ".") .ready
      ⟨s, .ok s.solution, []⟩
    else
      match Run.interval f.value (.real p.seed.x) (.real p.seed.y) (.real p.xEnd) (.real p.h)
          s.maxSteps with
      | .error e => ⟨s, .error e, []⟩
      | .ok r =>
        let solution : Solution α := ⟨r.points, explanation equation p r, none⟩
        ⟨{ s with solution := some solution }, .ok (some solution),
          r.intervalEvents s.maxSteps ++
            [.solved equation p.seed p.xEnd p.h r.points.length]⟩

/-- Solves an equation from a seed; gives the solution, or nothing for a blank equation. -/
def solve (C : Calculus ε α) (s : Solver α) (equation : Option String) (x₀ y₀ xEnd h : Datum α) :
    Effect (Solver α) α (Option (Solution α)) :=
  if Equation.isAbsent equation then ⟨s, .ok none, [.equationAbsent]⟩
  else
    let s := { s with stage := .compiling }
    match C.compile equation with
    | .error (.fault e) => ⟨s, .error e, []⟩
    | .error (.rejected e) =>
      let s := { s with function := none }.fail e.message .compileError
      ⟨s, .ok s.solution, [.equationRejected e.message]⟩
    | .ok f =>
      run { s with function := some f, stage := .ready } (equation.getD "") f x₀ y₀ xEnd h

/-- The parameters of one call of `solve`. -/
structure Call (α : Type) where
  equation : Option String
  x₀ : Datum α
  y₀ : Datum α
  xEnd : Datum α
  h : Datum α

/-- The session after a call. -/
def step (C : Calculus ε α) (s : Solver α) (c : Call α) : Solver α :=
  (s.solve C c.equation c.x₀ c.y₀ c.xEnd c.h).session

/-- The session after a list of calls. -/
def after (C : Calculus ε α) (s : Solver α) (cs : List (Call α)) : Solver α := cs.foldl (step C) s

end Solver

end DirectionField
