/-!
# The gamma function

The gamma function on doubles, by a rational approximation on the right half plane and by
reflection on the left one, and the double factorial that it gives.
-/

namespace DirectionField.Numeric

/-- The numerators of the fractions with denominators `z + 1`, `z + 2`, … in the approximation. -/
def gammaCoefficients : List Float :=
  [676.5203681218851, -1259.1392167224028, 771.32342877765313, -176.61502916214059,
    12.507343278686905, -0.13857109526572012, 9.9843695780195716e-6, 1.5056327351493116e-7]

/-- The gamma function at an argument of at least one half. -/
def gammaRight (x : Float) : Float :=
  let z := x - 1.0
  let step (acc : Float × Float) (c : Float) : Float × Float :=
    (acc.1 + c / (z + acc.2), acc.2 + 1.0)
  let s := (gammaCoefficients.foldl step (0.99999999999980993, 1.0)).1
  let t := z + 7.5
  -- half of the power on either side of the exponential keeps the product in range
  let p := Float.pow t ((z + 0.5) / 2.0)
  2.5066282746310002 * p * Float.exp (-t) * p * s

/-- The gamma function; `none` at its poles and where it is larger than every double. -/
def gamma (x : Float) : Option Float :=
  if x.isNaN then some x
  else if x ≤ 0.0 && x == x.floor then none
  else if x.isInf then some x
  else
    let v :=
      if 0.5 ≤ x then gammaRight x
      else 3.141592653589793 / (Float.sin (3.141592653589793 * x) * gammaRight (1.0 - x))
    if v.isInf then none else some v

/-- The double factorial by the gamma function: defined at whole arguments, and no number at other
ones. The second argument is the remainder of the first one modulo two. -/
def doubleFactorial (x parity : Float) : Option Float :=
  (gamma (x / 2.0 + 1.0)).map fun g =>
    let scale :=
      if parity == 0.0 then 1.0
      else if parity == 1.0 then Float.sqrt (2.0 / 3.141592653589793)
      else 0.0 / 0.0
    Float.pow 2.0 (x / 2.0) * g * scale

end DirectionField.Numeric
