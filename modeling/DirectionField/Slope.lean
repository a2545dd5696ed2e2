import DirectionField.Arithmetic
import DirectionField.Text.Quoted
import DirectionField.Equation
/-!
# Slope functions

The right-hand side of an equation as a function of a point. Its raw value may be any number or
none; as a slope it is always finite, and flat where the raw value is not, and near the zeros of a
coordinate that the body divides by.
-/

namespace DirectionField

/-- What a computation gives at a point. -/
inductive Outcome (α : Type) where
  | real (v : α)
  | complex (re im : α)
  | refused
  deriving Inhabited

structure Slope (α : Type) where
  /-- The equation as it was given. -/
  source : Option String
  body : String
  expression : String
  compute : α → α → Outcome α
  /-- Why the equation did not compile, for a flat slope in its place. -/
  error : Option String

namespace Slope

variable {α : Type}

def isFallback (f : Slope α) : Bool := f.error.isSome

/-- The text of the function in messages. -/
def label (f : Slope α) : String := "CompiledSlopeFunction(" ++ Text.quoted f.expression ++ ")"

/-- Whether the body divides by something that begins with the character. -/
def dividesBy (c : Char) (body : String) : Bool := go body.toList
where
  go : List Char → Bool
    | '/' :: d :: r => d == c || go (d :: r)
    | _ :: r => go r
    | [] => false

variable [Arithmetic α]

/-- The slope of the flat field, which also stands in for values that are not finite. -/
def flatSlope : α := 0.0

/-- How near to zero a coordinate counts as zero. -/
def poleWidth : α := 1e-10

/-- The real value of an outcome: a complex value counts by its real part unless its imaginary part
has a size, and otherwise there is none. -/
def realValue : Outcome α → α
  | .real v => v
  | .complex re im =>
    if Arithmetic.lt flatSlope (Arithmetic.abs im) then Arithmetic.undefined else re
  | .refused => Arithmetic.undefined

/-- The raw value at a point. -/
def evaluate (f : Slope α) (x y : α) : α := realValue (f.compute x y)

/-- Whether the body divides by a coordinate that is nearly zero. -/
def isNearPole (f : Slope α) (x y : α) : Bool :=
  (dividesBy 'y' f.body && Arithmetic.lt (Arithmetic.abs y) poleWidth) ||
    (dividesBy 'x' f.body && Arithmetic.lt (Arithmetic.abs x) poleWidth)

/-- The slope at a point. -/
def value (f : Slope α) (x y : α) : α :=
  if f.isNearPole x y then flatSlope
  else
    let v := f.evaluate x y
    if Arithmetic.isFinite v then v else flatSlope

/-- The flat field in the place of an equation. -/
def flat (source : Option String) (error : String) : Slope α where
  source := source
  body := Equation.body source
  expression := "0"
  compute _ _ := .real flatSlope
  error := some error

end Slope

end DirectionField
