import DirectionField.Algebra.Number
import DirectionField.Numeric.Complex
/-!
# Estimates of constant expressions

A constant expression is estimated by a complex double with a bound on its error. The bound is
coarse; it serves to decide the sign of a constant and whether it is real, and leaves the question
open when the estimate is too close.
-/

namespace DirectionField.Algebra

structure Estimate where
  value : Numeric.Complex
  error : Float

namespace Estimate

def ofFloat (x : Float) : Estimate := ⟨.ofReal x, x.abs * 2.0e-16⟩

def add (a b : Estimate) : Estimate :=
  let v := a.value.add b.value
  ⟨v, a.error + b.error + v.abs * 2.0e-16⟩

def mul (a b : Estimate) : Estimate :=
  let v := a.value.mul b.value
  ⟨v, a.error * b.value.abs + b.error * a.value.abs + v.abs * 4.0e-16⟩

/-- The estimate of a function's value, with a bound that fits moderate arguments. -/
def apply (f : Numeric.Complex → Numeric.Complex) (a : Estimate) : Estimate :=
  let v := f a.value
  ⟨v, (a.error + 1.0e-15) * 8.0 * (1.0 + v.abs)⟩

def powReal (x y : Float) : Float := Float.pow x y

def pow (a b : Estimate) : Option Estimate :=
  let (x, y) := (a.value.re, b.value.re)
  let v : Option Numeric.Complex :=
    if a.value.im == 0.0 && b.value.im == 0.0 && (0.0 ≤ x || y == y.floor) then
      some (.ofReal (powReal x y))
    else a.value.pow b.value
  v.map fun v =>
    ⟨v, v.abs * (2.0e-15 + (a.error / a.value.abs) * b.value.abs + b.error * 8.0)⟩

/-- Whether the estimate is good enough to tell a value apart from zero. -/
def isSignificant (a : Estimate) : Bool := a.value.abs.isFinite && a.value.abs > 4.0 * a.error

/-- Whether the imaginary part is within the error. -/
def isReal (a : Estimate) : Bool := a.value.im.abs ≤ 4.0 * a.error

end Estimate

namespace Expr

/-- The real and imaginary parts of `a + b · i` with real numbers `a` and `b`, not both exact. -/
def roundedComplex? (e : Expr) : Option (Numeric.Complex × Nat) :=
  match e with
  | .rounded r => some (.ofReal r.estimate, r.precision)
  | .sum [a, b] =>
    let part (e : Expr) : Option (Numeric.Complex × Option Nat) :=
      match e with
      | .rational q => some (.ofReal (Rounded.ofRat q 53).estimate, none)
      | .rounded r => some (.ofReal r.estimate, some r.precision)
      | .constant .imaginaryUnit => some (.unit, none)
      | .product [.rational q, .constant .imaginaryUnit] =>
        some (⟨0.0, (Rounded.ofRat q 53).estimate⟩, none)
      | .product [.rounded r, .constant .imaginaryUnit] =>
        some (⟨0.0, r.estimate⟩, some r.precision)
      | _ => none
    match part a, part b with
    | some (z, some p), some (w, some q) => some (z.add w, max p q)
    | some (z, some p), some (w, none) => some (z.add w, p)
    | some (z, none), some (w, some p) => some (z.add w, p)
    | _, _ => none
  | _ => none

/-- The function on complex doubles. -/
def fnValue : Fn → Option (Numeric.Complex → Numeric.Complex)
  | .sin => some .sin | .cos => some .cos | .tan => some .tan
  | .asin => some .asin | .acos => some .acos | .atan => some .atan
  | .sinh => some .sinh | .cosh => some .cosh | .tanh => some .tanh
  | .asinh => some .asinh | .atanh => some .atanh
  | .exp => some .exp | .log => some .log
  | .abs => some fun z => .ofReal z.abs
  | .floor => some fun z => .ofReal z.re.floor
  | _ => none

/-- An estimate of a constant expression; none when it has symbols or is not finite. -/
def estimate : Expr → Option Estimate
  | .rational q => some (.ofFloat (Rounded.ofRat q 53).estimate)
  | .rounded r => some (.ofFloat r.estimate)
  | .constant .pi => some (.ofFloat 3.141592653589793)
  | .constant .e => some (.ofFloat 2.718281828459045)
  | .constant .imaginaryUnit => some ⟨.unit, 0.0⟩
  | .constant _ => none
  | .symbol _ => none
  | .sum ts => do return (← estimates ts).foldl Estimate.add (.ofFloat 0.0)
  | .product fs => do return (← estimates fs).foldl Estimate.mul (.ofFloat 1.0)
  | .power b n => do (← estimate b).pow (← estimate n)
  | .call f args => do
    match ← estimates args with
    | [a] => (fnValue f).map a.apply
    | _ => none
  | .unknown .. | .abstraction .. => none
where
  estimates : List Expr → Option (List Estimate)
    | [] => some []
    | e :: r => do return (← estimate e) :: (← estimates r)

end Expr

end DirectionField.Algebra
