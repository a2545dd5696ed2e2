import DirectionField.Algebra.Sum
import DirectionField.Algebra.Product
import DirectionField.Algebra.Power
import DirectionField.Algebra.Exponential
import DirectionField.Algebra.Trigonometry
import DirectionField.Algebra.Magnitude
import DirectionField.Algebra.Integral
/-!
# Simplification

The rules of sums, products, powers and functions, each using the others for the expressions it
builds in turn. The nesting of such uses is bounded; beyond the bound parts are put together as
they are.
-/

namespace DirectionField.Algebra

/-- The simplified application of a function. -/
def applyFunction (B : Builders) (f : Fn) (args : List Expr) : Expr :=
  match f, args with
  | .sin, [a] => Trigonometry.sin B a
  | .cos, [a] => Trigonometry.cos B a
  | .tan, [a] => Trigonometry.tan B a
  | .asin, [a] => Trigonometry.asin B a
  | .acos, [a] => Trigonometry.acos B a
  | .atan, [a] => Trigonometry.atan B a
  | .sinh, [a] => Trigonometry.sinh B a
  | .cosh, [a] => Trigonometry.cosh B a
  | .tanh, [a] => Trigonometry.tanh B a
  | .asinh, [a] => Trigonometry.asinh B a
  | .atanh, [a] => Trigonometry.atanh B a
  | .exp, [a] => Exponential.exp B a
  | .log, [a] => Exponential.log B a
  | .log, [a, b] => Exponential.logBase B a b
  | .abs, [a] => Magnitude.abs B a
  | .floor, [a] => Integral.floor B a
  | .modulo, [a, b] => Integral.modulo B a b
  | .maximum, args => Integral.extremum B true args
  | .minimum, args => Integral.extremum B false args
  | .factorial, [a] => Integral.factorial a
  | .doubleFactorial, [a] => Integral.doubleFactorial a
  | f, args => .call f args

/-- The simplifying operations, with uses nested at most `depth` deep. -/
def Builders.simplifying (depth : Nat) : Builders :=
  match depth with
  | 0 => .plain
  | depth + 1 =>
    let B := simplifying depth
    { sum := Sum.build B
      product := Product.build B
      power := Power.build B
      call := applyFunction B }

/-- The simplifying operations. -/
def simplifier : Builders := .simplifying 100

end DirectionField.Algebra
