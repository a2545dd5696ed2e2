import DirectionField.Numeric.Number
/-!
# Arithmetic

What a computation of slopes and trajectories asks of its numbers. The programs below are written
over any such arithmetic; doubles are the one they run with.
-/

namespace DirectionField

/-- What a number stands for exactly. -/
inductive Extended where
  | undefined
  | infinite (negative : Bool)
  | finite (q : Rat)
  deriving DecidableEq, Repr

namespace Extended

/-- The order of the numbers; the undefined value stands in no order to any. -/
def lt : Extended → Extended → Bool
  | .undefined, _ | _, .undefined => false
  | .infinite m, .infinite n => m && !n
  | .infinite m, .finite _ => m
  | .finite _, .infinite n => !n
  | .finite p, .finite q => decide (p < q)

def beq : Extended → Extended → Bool
  | .undefined, _ => false
  | a, b => decide (a = b)

def le (a b : Extended) : Bool := lt a b || beq a b

end Extended

/-- The operations and tests on numbers that integration, sampling and drawing use. -/
class Arithmetic (α : Type) extends Add α, Sub α, Mul α, Div α, OfScientific α where
  ofInt : Int → α
  abs : α → α
  lt : α → α → Bool
  le : α → α → Bool
  isFinite : α → Bool
  /-- The value of a computation that has no result. -/
  undefined : α

/-- Arithmetic whose numbers can also be read, written and told exactly. -/
class Numeral (α : Type) extends Arithmetic α where
  /-- The number nearest to a whole number, unless it is out of range. -/
  ofInt? : Int → Option α
  exact : α → Extended
  read? : String → Option α
  /-- The shortest text that reads back as the number. -/
  shortest : α → String
  /-- The text with a number of significant digits. -/
  general : Nat → α → String

/-- The angle of a slope and the direction of an angle. -/
class Trigonometry (α : Type) where
  atan : α → α
  cos : α → α
  sin : α → α

namespace Arithmetic

variable {α : Type} [Arithmetic α]

def isEqual (a b : α) : Bool := le a b && le b a

/-- The smaller number, the first of two equal ones. -/
def min (a b : α) : α := if lt b a then b else a

/-- The larger number, the first of two equal ones. -/
def max (a b : α) : α := if lt a b then b else a

end Arithmetic

/-- The exact value of a double. -/
def exactFloat (x : Float) : Extended :=
  match Binary.ofFloat x with
  | .nan => .undefined
  | .infinite negative => .infinite negative
  | .finite negative m e =>
    let v := Decimal.quotient m e
    .finite (mkRat (if negative then -(v.1 : Int) else v.1) v.2)

instance : Numeral Float where
  ofInt := Float.ofInt
  abs := Float.abs
  lt a b := a < b
  le a b := a ≤ b
  isFinite := Float.isFinite
  undefined := 0.0 / 0.0
  ofInt? := Numeric.wholeToFloat
  exact := exactFloat
  read? := Decimal.readFloat
  shortest := Decimal.shortest
  general := Decimal.general

instance : Trigonometry Float where
  atan := Float.atan
  cos := Float.cos
  sin := Float.sin

end DirectionField
