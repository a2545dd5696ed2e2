import DirectionField.Fault
import DirectionField.Formula.Token
import DirectionField.Slope
import DirectionField.Symbol
/-!
# Compiling equations

An equation compiles to a slope function when its body can be read, denotes an algebraic expression
and has no functions or symbols but the known ones. The checks are made in this order and the first
that fails is the reason for the rejection. How a formula is read and computed is given by a
calculus.
-/

namespace DirectionField

open DirectionField.Formula (ReadFault)

/-- What a formula is found to be. -/
inductive Reading (ε : Type) where
  | fault (f : ReadFault)
  | expression (e : ε)
  /-- A value that is no expression. -/
  | other

/-- A way to read formulas as expressions of type `ε` and to compute these. -/
structure Calculus (ε α : Type) where
  read : String → Reading ε
  /-- The function of each distinct application of a function without a definition. -/
  applied : ε → List String
  /-- The distinct free symbols. -/
  symbols : ε → List Symbol
  /-- The computation of an expression; some have none. -/
  computation : ε → Except Fault (α → α → Outcome α)

/-- Why an equation is rejected. -/
inductive Rejection where
  | empty
  | unreadable (f : ReadFault)
  | notAlgebraic
  | unknownFunctions (names : List String)
  | unknownIdentifiers (names : List String)
  deriving DecidableEq, Repr

def Rejection.detail : Rejection → String
  | .empty => "the expression is empty"
  | .unreadable f => f.word ++ ": " ++ f.note
  | .notAlgebraic => "the right-hand side is not an algebraic expression"
  | .unknownFunctions names => "unknown function(s): " ++ ", ".intercalate names
  | .unknownIdentifiers names => "unknown identifier(s): " ++ ", ".intercalate names

/-- A rejected equation: the text that is to blame and the reason. -/
structure EquationError where
  text : String
  reason : Rejection
  deriving DecidableEq, Repr

def EquationError.message (e : EquationError) : String :=
  "Cannot parse '" ++ e.text ++ "': " ++ e.reason.detail

/-- Why there is no slope function. -/
inductive CompileFault where
  | rejected (e : EquationError)
  | fault (f : Fault)
  deriving DecidableEq, Repr

namespace Calculus

variable {ε α : Type}

/-- The symbols that an equation is about. -/
def coordinates : List Symbol := [.x, .y]

/-- The names in the order of their characters. -/
def inOrder (names : List String) : List String := names.mergeSort fun a b => !decide (b < a)

/-- The expression of a body that is not empty, if it is algebraic and has known names only. -/
def check (C : Calculus ε α) (body : String) : Except Rejection ε :=
  match C.read (Equation.plain body) with
  | .fault f => .error (.unreadable f)
  | .other => .error .notAlgebraic
  | .expression e =>
    match inOrder (C.applied e) with
    | [] =>
      match inOrder (((C.symbols e).filter fun s => !coordinates.contains s).map Symbol.name) with
      | [] => .ok e
      | names => .error (.unknownIdentifiers names)
    | names => .error (.unknownFunctions names)

/-- The slope function of an equation. -/
def compile (C : Calculus ε α) (raw : Option String) : Except CompileFault (Slope α) :=
  let body := Equation.body raw
  if body.isEmpty then .error (.rejected ⟨raw.getD "", .empty⟩)
  else
    match C.check body with
    | .error reason => .error (.rejected ⟨body, reason⟩)
    | .ok e =>
      match C.computation e with
      | .error f => .error (.fault f)
      | .ok compute => .ok ⟨raw, body, Equation.plain body, compute, none⟩

/-- The slope function of an equation, a flat one in the place of a rejected equation. -/
def compileOrFlat [Arithmetic α] (C : Calculus ε α) (raw : Option String) :
    Except Fault (Slope α × Option EquationError) :=
  match C.compile raw with
  | .ok f => .ok (f, none)
  | .error (.rejected e) => .ok (.flat raw e.message, some e)
  | .error (.fault f) => .error f

end Calculus

end DirectionField
