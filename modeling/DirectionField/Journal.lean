import DirectionField.Stage
import DirectionField.Trajectory
import DirectionField.Text.Quoted
/-!
# The journal

What sessions and runs report while they work, the lines these reports are written as, and the
console that the lines go to. A report whose numbers cannot be written as the line wants them leaves
no line.
-/

namespace DirectionField

inductive Level where
  | debug | info | warning
  deriving DecidableEq, Repr

def Level.name : Level → String
  | .debug => "DEBUG"
  | .info => "INFO"
  | .warning => "WARNING"

/-- A line of the journal, the part of the library that it comes from given by its topic. -/
structure Entry where
  level : Level
  topic : String
  message : String
  deriving DecidableEq, Repr

def Entry.line (e : Entry) : String := e.level.name ++ " " ++ e.topic ++ ": " ++ e.message

inductive Event (α : Type) where
  | ceilingReached (ceiling : Datum α) (x : α)
  | notFinite (steps : Nat) (seed : Point α)
  | leftRectangle (steps : Nat) (seed : Point α)
  | fellBack (message : String)
  | equationSet (text : String) (stage : Stage)
  | curveAdded (id : Nat) (x y : Datum α) (points : Nat)
  | equationAbsent
  | equationRejected (message : String)
  | solved (equation : String) (seed : Point α) (xEnd h : α) (points : Nat)
  | referenceStopped

namespace Event

variable {α : Type} [Numeral α]

def show6 (x : α) : String := Numeral.general 6 x

def pair (p : Point α) : String := "(" ++ show6 p.x ++ ", " ++ show6 p.y ++ ")"

/-- The line of an event. -/
def entry? : Event α → Option Entry
  | .ceilingReached ceiling x => do
    let n ← ceiling.wholeText?
    return ⟨.warning, "ode_integrator", "Interval integration stopped at the " ++ n ++
      "-step ceiling (x=" ++ show6 x ++ ")."⟩
  | .notFinite n seed =>
    some ⟨.debug, "ode_integrator", "Non-finite RK4 stage after " ++ toString n ++
      " steps from " ++ pair seed ++ "."⟩
  | .leftRectangle n seed =>
    some ⟨.debug, "ode_integrator", "Left the domain after " ++ toString n ++ " steps from " ++
      pair seed ++ "."⟩
  | .fellBack message =>
    some ⟨.warning, "ode_compiler", "Falling back to a zero slope: " ++ message⟩
  | .equationSet text stage =>
    some ⟨.info, "field_session", "Equation set to " ++ Text.quoted text ++ " (" ++ stage.name ++
      ")"⟩
  | .curveAdded id x y n => do
    let x ← x.generalText?
    let y ← y.generalText?
    return ⟨.debug, "field_session", "Added curve " ++ toString id ++ " at (" ++ x ++ ", " ++ y ++
      ") with " ++ toString n ++ " points"⟩
  | .equationAbsent =>
    some ⟨.debug, "trajectory_session", "Empty equation; keeping the previous result."⟩
  | .equationRejected message =>
    some ⟨.warning, "trajectory_session", "Solver compile failed: " ++ message⟩
  | .solved equation seed xEnd h n =>
    some ⟨.info, "trajectory_session", "Solved " ++ Text.quoted equation ++ " from " ++ pair seed ++
      " to x=" ++ show6 xEnd ++ " with h=" ++ show6 h ++ ": " ++ toString n ++ " points"⟩
  | .referenceStopped =>
    some ⟨.info, "ode_integrator", "Reference solve stopped early: " ++
      "Required step size is less than spacing between numbers."⟩

end Event

namespace Run

variable {α : Type}

/-- The events of a box run. -/
def boxEvents (r : Run α) : List (Event α) :=
  match r.ending, r.points with
  | .notFinite, seed :: _ => [.notFinite r.steps seed]
  | .outside, seed :: _ => [.leftRectangle r.steps seed]
  | _, _ => []

/-- The events of an interval run under a ceiling. -/
def intervalEvents (ceiling : Datum α) (r : Run α) : List (Event α) :=
  match r.ending, r.points.getLast? with
  | .ceiling, some p => [.ceilingReached ceiling p.x]
  | _, _ => []

/-- The events of a run to a target. -/
def targetEvents (target : Target α) (maxSteps : Datum α) (r : Run α) : List (Event α) :=
  match target with
  | .settings _ => r.boxEvents
  | .value _ => r.intervalEvents (if maxSteps.isMissing then .whole standardCeiling else maxSteps)

end Run

/-! ## The console -/

/-- Where lines are written: those of at least the console's level, by each of its handlers. -/
structure Console where
  level : Int
  handlers : Nat
  lines : List String
  deriving Repr

namespace Console

/-- The names of the levels; any other level is named by its number. -/
def levelName (n : Int) : String :=
  match n with
  | 10 => "DEBUG"
  | 20 => "INFO"
  | 30 => "WARNING"
  | 40 => "ERROR"
  | 50 => "CRITICAL"
  | n => "Level " ++ toString n

/-- The level that a name stands for. -/
def namedLevel? (s : String) : Option Int :=
  [("NOTSET", 0), ("DEBUG", 10), ("INFO", 20), ("WARN", 30), ("WARNING", 30), ("ERROR", 40),
    ("CRITICAL", 50), ("FATAL", 50)].lookup s

/-- The first five characters of a level's name, filled up with blanks. -/
def shortName (n : Int) : String :=
  let cs := (levelName n).toList.take 5
  String.ofList (cs ++ List.replicate (5 - cs.length) ' ')

/-- Writes a line to every handler; lines below the console's level and without a positive level
are dropped. -/
def write (c : Console) (topic : String) (level : Int) (message : String) : Console :=
  if level < c.level || level ≤ 0 then c
  else
    let line := "[" ++ shortName level ++ "] [" ++ topic ++ "] " ++ message
    { c with lines := c.lines ++ List.replicate c.handlers line }

/-- Sets the console up afresh: one handler in the place of any others. -/
def setUp (c : Console) (level : Int) : Console :=
  ({ c with level := level, handlers := 1 }).write "log_config" 10 "Logging configured."

/-- A level given as a number or by name. -/
def levelOf {α : Type} (d : Datum α) : Except Fault Int :=
  match d with
  | .text s => ((namedLevel? s).map .ok).getD (.error .unreadable)
  | d => (d.whole?.map .ok).getD (.error .mismatch)

end Console

end DirectionField
