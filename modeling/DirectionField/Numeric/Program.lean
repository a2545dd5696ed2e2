import DirectionField.Numeric.Number
/-!
# Numeric programs

The arithmetic that computes a slope at a point: constants, the two coordinates, the four
operations, powers and elementary functions. A step that is refused refuses the whole program.
-/

namespace DirectionField.Numeric

/-- The elementary functions. -/
inductive Elementary where
  | sin | cos | tan | asin | acos | atan | sinh | cosh | tanh | asinh | atanh
  | exp | log | sqrt | abs | floor | doubleFactorial
  deriving DecidableEq, Repr

def Elementary.apply : Elementary → Number → Option Number
  | .sin => Number.apply Float.sin Complex.sin
  | .cos => Number.apply Float.cos Complex.cos
  | .tan => Number.apply Float.tan Complex.tan
  | .asin => Number.apply Float.asin Complex.asin
  | .acos => Number.apply Float.acos Complex.acos
  | .atan => Number.apply Float.atan Complex.atan
  | .sinh => Number.apply Float.sinh Complex.sinh
  | .cosh => Number.apply Float.cosh Complex.cosh
  | .tanh => Number.apply Float.tanh Complex.tanh
  | .asinh => Number.apply Float.asinh Complex.asinh
  | .atanh => Number.apply Float.atanh Complex.atanh
  | .exp => Number.apply Float.exp Complex.exp
  | .log => Number.apply Float.log Complex.log
  | .sqrt => Number.apply Float.sqrt Complex.sqrt
  | .abs => Number.abs
  | .floor => Number.floor
  | .doubleFactorial => Number.doubleFactorial

/-- A computation on the coordinates of a point. -/
inductive Program where
  | constant (a : Number)
  | x
  | y
  | add (a b : Program)
  | mul (a b : Program)
  | div (a b : Program)
  | pow (a b : Program)
  | remainder (a b : Program)
  | neg (a : Program)
  | call (f : Elementary) (a : Program)
  | extremum (larger : Bool) (args : List Program)
  /-- A computation that is always refused. -/
  | refused

namespace Program

/-- The number that the program computes at the point `(px, py)`; `none` when a step is refused. -/
def run (px py : Float) : Program → Option Number
  | .constant a => some a
  | .x => some (.real px false)
  | .y => some (.real py false)
  | .add a b => do Number.add (← a.run px py) (← b.run px py)
  | .mul a b => do Number.mul (← a.run px py) (← b.run px py)
  | .div a b => do Number.div (← a.run px py) (← b.run px py)
  | .pow a b => do Number.pow (← a.run px py) (← b.run px py)
  | .remainder a b => do Number.remainder (← a.run px py) (← b.run px py)
  | .neg a => do return (← a.run px py).neg
  | .call f a => do f.apply (← a.run px py)
  | .extremum larger args => do Number.extremum larger (← runAll px py args)
  | .refused => none
where
  runAll (px py : Float) : List Program → Option (List Number)
    | [] => some []
    | a :: rest => do return (← a.run px py) :: (← runAll px py rest)

end Program

end DirectionField.Numeric
