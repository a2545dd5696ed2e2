import DirectionField.Algebra.Computation
import DirectionField.Compile
import DirectionField.Formula.Meaning
/-!
# Formulas as slope functions

The calculus that equations are compiled with: formulas are read and simplified exactly, and
computed in doubles.
-/

namespace DirectionField.Formula

open DirectionField.Algebra (Expr)
open DirectionField.Numeric (Number Program)

/-- The name of a function without a definition in each of its distinct applications. -/
def appliedNames (e : Expr) : List String :=
  e.unknowns.eraseDups.filterMap fun
    | .unknown name _ => some name
    | _ => none

/-- What a number is as the outcome of a slope computation. -/
def outcome : Option Number → Outcome Float
  | some (.complex z _) => .complex z.re z.im
  | some a => ((a.toFloat).map .real).getD .refused
  | none => .refused

/-- The most digits that a whole number in a computation may have. -/
def maxDigits : Nat := 4300

/-- Whether a number in the expression has too many digits to be written out. -/
def hasHugeNumber (e : Expr) : Bool :=
  e.has fun
    | .rational q =>
      decide (Nat.pow 10 maxDigits ≤ q.num.natAbs) || decide (Nat.pow 10 maxDigits ≤ q.den)
    | _ => false

/-- The computation of an expression; there is none where complex infinity occurs, nor for numbers
with too many digits. -/
def computation (e : Expr) : Except Fault (Float → Float → Outcome Float) :=
  if e.has Expr.isComplexInfinity then .error .notComputable
  else if hasHugeNumber e then .error .unreadable
  else
    let p := e.program
    .ok fun x y => outcome (p.run x y)

/-- Exact algebra, computed in doubles. -/
def calculus : Calculus Expr Float where
  read s :=
    match read s with
    | .error f => .fault f
    | .ok (.expr e) => .expression e
    | .ok _ => .other
  applied := appliedNames
  symbols e := e.symbols.eraseDups
  computation := computation

end DirectionField.Formula
