import DirectionField.Decimal
import DirectionField.Numeric.Complex
import DirectionField.Numeric.Gamma
/-!
# Numbers that a slope is computed with

A number is whole, real or complex. A number that came out of an elementary function is marked
`ieee`: an operation that has a marked operand follows the floating-point standard throughout,
while an operation on unmarked numbers refuses a division by zero and a power that is too large,
and leaves the reals for a negative base with a fractional exponent.
-/

namespace DirectionField.Numeric

inductive Number where
  | whole (n : Int)
  | real (x : Float) (ieee : Bool)
  | complex (z : Complex) (ieee : Bool)

/-- The double nearest to a whole number, unless it is too large for a double. -/
def wholeToFloat (n : Int) : Option Float :=
  let x := Decimal.toFloat (decide (n < 0)) n.natAbs 0
  if x.isInf then none else some x

/-- The double nearest to a quotient of whole numbers, unless it is too large for a double. -/
def ratioToFloat (a b : Int) : Option Float :=
  if b == 0 then none
  else if a == 0 then some 0.0
  else
    let num := a.natAbs
    let den := b.natAbs
    let shift : Int := (Nat.log2 num : Int) - Nat.log2 den
    -- 66 significant bits and a sticky bit round to the same double as the quotient
    let k := 66 - shift
    let scaled := if 0 ≤ k then (num <<< k.toNat, den) else (num, den <<< (-k).toNat)
    let q := scaled.1 / scaled.2
    let m := 2 * q + (if scaled.1 % scaled.2 == 0 then 0 else 1)
    let e := -k - 1
    let x :=
      if 1100 < shift then 1.0 / 0.0
      else if shift < -1200 then 0.0
      else if 0 ≤ e then Float.ofScientific (m <<< e.toNat) false 0
      else Float.ofScientific (m * Nat.pow 5 (-e).toNat) true (-e).toNat
    if x.isInf then none else some (if (a < 0) != (b < 0) then -x else x)

namespace Number

def ieee : Number → Bool
  | .whole _ => false
  | .real _ b => b
  | .complex _ b => b

def isComplex : Number → Bool
  | .complex .. => true
  | _ => false

def toFloat : Number → Option Float
  | .whole n => wholeToFloat n
  | .real x _ => some x
  | .complex .. => none

def toComplex : Number → Option Complex
  | .complex z _ => some z
  | a => a.toFloat.map Complex.ofReal

/-- Applies one of three readings of an operation: on whole numbers, on doubles, or on complex
numbers when one operand is complex. The `Bool` tells whether an operand is marked. -/
def combine (onWhole : Int → Int → Option Number) (onReal : Bool → Float → Float → Option Number)
    (onComplex : Bool → Complex → Complex → Option Number) (a b : Number) : Option Number :=
  let mark := a.ieee || b.ieee
  match a, b with
  | .whole m, .whole n => onWhole m n
  | _, _ =>
    if a.isComplex || b.isComplex then do onComplex mark (← a.toComplex) (← b.toComplex)
    else do onReal mark (← a.toFloat) (← b.toFloat)

def add : Number → Number → Option Number :=
  combine (fun m n => some (.whole (m + n))) (fun i x y => some (.real (x + y) i))
    (fun i z w => some (.complex (z.add w) i))

def mul : Number → Number → Option Number :=
  combine (fun m n => some (.whole (m * n))) (fun i x y => some (.real (x * y) i))
    (fun i z w => some (.complex (z.mul w) i))

def neg : Number → Number
  | .whole n => .whole (-n)
  | .real x i => .real (-x) i
  | .complex z i => .complex z.neg i

def div : Number → Number → Option Number :=
  combine (fun m n => (ratioToFloat m n).map (.real · false))
    (fun i x y => if !i && y == 0.0 then none else some (.real (x / y) i))
    (fun i z w => if !i && w.isZero then none else some (.complex (z.div w) i))

/-- A power of doubles. -/
def powReal (marked : Bool) (x y : Float) : Option Number :=
  if marked then some (.real (Float.pow x y) true)
  else if x == 0.0 && y < 0.0 then none
  else if x < 0.0 && x.isFinite && y.isFinite && y != y.floor then
    (Complex.pow (Complex.ofReal x) (Complex.ofReal y)).bind fun z =>
      if z.re.isInf || z.im.isInf then none else some (.complex z false)
  else
    let r := Float.pow x y
    if r.isInf && x.isFinite && y.isFinite then none else some (.real r false)

def pow : Number → Number → Option Number :=
  combine
    (fun m n =>
      if 0 ≤ n then some (.whole (Int.pow m n.toNat))
      else do powReal false (← wholeToFloat m) (← wholeToFloat n))
    powReal
    (fun i z w => (Complex.pow z w).map (.complex · i))

/-- The exact value of a finite double over a power of two. -/
def floatQuotient (x : Float) : Option (Int × Int) :=
  match Binary.ofFloat x with
  | .finite negative m e => some (if negative then -(m : Int) else m, e)
  | _ => none

/-- The remainder with the sign of the divisor, of finite doubles and a divisor other than zero:
exact but for the last step, as both operands are multiples of one power of two. -/
def floorRemainder (x y : Float) : Float :=
  match floatQuotient x, floatQuotient y with
  | some (m, e), some (n, f) =>
    let g := min e f
    let a := m * Nat.pow 2 (e - g).toNat
    let b := n * Nat.pow 2 (f - g).toNat
    let r := Int.fmod a b
    if r == 0 then (if y < 0.0 then -0.0 else 0.0)
    else if 0 ≤ g then (wholeToFloat (r * Nat.pow 2 g.toNat)).getD (0.0 / 0.0)
    else (ratioToFloat r (Nat.pow 2 (-g).toNat)).getD (0.0 / 0.0)
  | some _, none =>
    if y.isNaN then y else if x == 0.0 || (x < 0.0) == (y < 0.0) then x else y
  | none, _ => 0.0 / 0.0

def remainder : Number → Number → Option Number :=
  combine (fun m n => if n == 0 then none else some (.whole (Int.fmod m n)))
    (fun i x y =>
      if y == 0.0 then (if i then some (.real (0.0 / 0.0) true) else none)
      else some (.real (floorRemainder x y) i))
    (fun _ _ _ => none)

/-- Whether an elementary function takes the number: a whole number has to fit a machine word. -/
def isMachineSized : Number → Bool
  | .whole n => decide (-Nat.pow 2 63 ≤ n ∧ n < Nat.pow 2 64)
  | _ => true

/-- Applies an elementary function, given on doubles and on complex numbers. -/
def apply (onReal : Float → Float) (onComplex : Complex → Complex) (a : Number) : Option Number :=
  if !a.isMachineSized then none
  else
    match a with
    | .complex z _ => some (.complex (onComplex z) true)
    | _ => a.toFloat.map fun x => .real (onReal x) true

/-- The modulus. -/
def abs (a : Number) : Option Number :=
  if !a.isMachineSized then none
  else
    match a with
    | .whole n => some (.whole n.natAbs)
    | .real x _ => some (.real x.abs true)
    | .complex z _ => some (.real z.abs true)

def floor (a : Number) : Option Number :=
  match a with
  | .complex .. => none
  | _ => if a.isMachineSized then a.toFloat.map fun x => .real x.floor true else none

/-- The double factorial, refused at poles of the gamma function and for complex numbers. -/
def doubleFactorial (a : Number) : Option Number :=
  match a with
  | .complex .. => none
  | _ => do
    let x ← a.toFloat
    return .real (← Numeric.doubleFactorial x (floorRemainder x 2.0)) true

/-- The larger or smaller of the numbers; a value that is no number wins. -/
def extremum (larger : Bool) : List Number → Option Number
  | [] => none
  | a :: rest => do
    let first ← a.toFloat
    let xs ← rest.mapM toFloat
    return .real (xs.foldl (fun m x =>
      if m.isNaN then m else if x.isNaN then x
      else if larger then (if m < x then x else m) else if x < m then x else m) first) true

end Number

end DirectionField.Numeric
