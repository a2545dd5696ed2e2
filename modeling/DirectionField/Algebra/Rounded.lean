import DirectionField.Decimal
/-!
# Rounded reals

Binary numbers kept to a precision of their own, as decimal literals are: `mantissa · 2 ^ exponent`
with an odd mantissa of at most `precision` bits, or zero. Results are rounded to the precision, a
half going to the even neighbour.
-/

namespace DirectionField.Algebra

structure Rounded where
  mantissa : Int
  exponent : Int
  precision : Nat
  deriving BEq, Repr, Inhabited

namespace Rounded

/-- The number of bits of `n`. -/
def bits (n : Nat) : Nat := if n = 0 then 0 else Nat.log2 n + 1

/-- The largest `k` with `2 ^ k` dividing a positive `n`. -/
def twos (n : Nat) : Nat :=
  if h : n = 0 then 0 else if n % 2 = 0 then twos (n / 2) + 1 else 0
termination_by n
decreasing_by omega

/-- `m · 2 ^ e` rounded to `p` bits; `sticky` says that the true value is a little larger in size
than `m · 2 ^ e`. -/
def normalize (negative : Bool) (m : Nat) (e : Int) (p : Nat) (sticky : Bool) : Rounded :=
  -- two more bits make room for the sticky one
  let m := if sticky then 4 * m + 1 else 4 * m
  let e := e - 2
  let extra := bits m - p
  let m := if extra = 0 then m else Decimal.roundHalfEven m (Nat.pow 2 extra)
  let e := e + extra
  if m = 0 then ⟨0, 0, p⟩
  else
    let t := twos m
    let m := m / Nat.pow 2 t
    ⟨if negative then -(m : Int) else m, e + t, p⟩

def ofInt (n : Int) (p : Nat) : Rounded := normalize (decide (n < 0)) n.natAbs 0 p false

/-- The quotient `num / den` rounded to `p` bits. -/
def ofQuotient (num : Int) (den p : Nat) : Rounded :=
  if den = 0 then ⟨0, 0, p⟩
  else
    let shift := (p + 4 + bits den) - bits num.natAbs
    let n := num.natAbs <<< shift
    normalize (decide (num < 0)) (n / den) (-(shift : Int)) p (n % den != 0)

def ofRat (q : Rat) (p : Nat) : Rounded := ofQuotient q.num q.den p

def isZero (r : Rounded) : Bool := r.mantissa == 0

def isNegative (r : Rounded) : Bool := decide (r.mantissa < 0)

/-- The place of the highest bit. -/
def magnitude (r : Rounded) : Int := r.exponent + bits r.mantissa.natAbs

/-- The exact value; values far beyond every double are cut to a power of two of their sign. -/
def toRat (r : Rounded) : Rat :=
  if r.isZero then 0
  else if r.magnitude > 100000 then (if r.isNegative then -1 else 1) * Nat.pow 2 100000
  else if r.magnitude < -100000 then (if r.isNegative then -1 else 1) / Nat.pow 2 100000
  else if 0 ≤ r.exponent then (r.mantissa * Nat.pow 2 r.exponent.toNat : Int)
  else mkRat r.mantissa (Nat.pow 2 (-r.exponent).toNat)

def neg (r : Rounded) : Rounded := { r with mantissa := -r.mantissa }

def abs (r : Rounded) : Rounded := { r with mantissa := r.mantissa.natAbs }

/-- The sum, to the finer precision; a summand below the last bit counts as nothing. -/
def add (a b : Rounded) : Rounded :=
  let p := max a.precision b.precision
  if a.isZero then normalize b.isNegative b.mantissa.natAbs b.exponent p false
  else if b.isZero then normalize a.isNegative a.mantissa.natAbs a.exponent p false
  else if a.magnitude > b.magnitude + 2 * p + 200 then
    normalize a.isNegative a.mantissa.natAbs a.exponent p false
  else if b.magnitude > a.magnitude + 2 * p + 200 then
    normalize b.isNegative b.mantissa.natAbs b.exponent p false
  else
    let e := min a.exponent b.exponent
    let s := a.mantissa * Nat.pow 2 (a.exponent - e).toNat +
      b.mantissa * Nat.pow 2 (b.exponent - e).toNat
    normalize (decide (s < 0)) s.natAbs e p false

def mul (a b : Rounded) : Rounded :=
  let m := a.mantissa * b.mantissa
  normalize (decide (m < 0)) m.natAbs (a.exponent + b.exponent)
    (max a.precision b.precision) false

/-- The inverse of a number other than zero. -/
def inv (a : Rounded) : Rounded :=
  let q := ofQuotient (if a.isNegative then -1 else 1) a.mantissa.natAbs a.precision
  { q with exponent := q.exponent - a.exponent }

/-- The quotient by a number other than zero. -/
def div (a b : Rounded) : Rounded :=
  let p := max a.precision b.precision
  let m := if b.isNegative then -a.mantissa else a.mantissa
  let q := ofQuotient m b.mantissa.natAbs p
  if q.isZero then q else { q with exponent := q.exponent + a.exponent - b.exponent }

/-- A power with a natural exponent by repeated squaring at a working precision. -/
def powNat (a : Rounded) (n : Nat) : Rounded :=
  let work := a.precision + 2 * bits n + 16
  let r := go n { a with precision := work } { mantissa := 1, exponent := 0, precision := work }
  normalize r.isNegative r.mantissa.natAbs r.exponent a.precision false
where
  go (n : Nat) (square acc : Rounded) : Rounded :=
    if h : n = 0 then acc
    else go (n / 2) (square.mul square) (if n % 2 = 1 then acc.mul square else acc)
  termination_by n
  decreasing_by omega

def powInt (a : Rounded) (n : Int) : Rounded :=
  if 0 ≤ n then a.powNat n.toNat else (a.powNat n.natAbs).inv

/-- Whether the value is a whole number. -/
def isInteger (a : Rounded) : Bool := a.isZero || decide (0 ≤ a.exponent)

/-- The decimal digits that a precision is good for. -/
def decimalDigits (p : Nat) : Nat :=
  -- `p · log₁₀ 2` rounded, less one
  max 1 ((p * 3010299956639812 + 5000000000000000) / 10000000000000000 - 1)

/-- The precision that a number of decimal digits needs. -/
def precisionFor (digits : Nat) : Nat :=
  max 1 (((digits + 1) * 33219280948873626 + 5000000000000000) / 10000000000000000)

/-- The double that the decimal text of the number reads back as. The text has the digits that the
precision is good for, the last one rounded half up. -/
def toFloat (a : Rounded) : Float :=
  if a.isZero then 0.0
  else if a.magnitude > 1100 then (if a.isNegative then -1.0 / 0.0 else 1.0 / 0.0)
  else if a.magnitude < -1200 then (if a.isNegative then -0.0 else 0.0)
  else
    let v := Decimal.quotient a.mantissa.natAbs a.exponent
    let n := decimalDigits a.precision
    let d := Decimal.significantBy Decimal.roundHalfUp n v.1 v.2
    let m := d.digits.foldl (fun m c => m * 10 + (c.toNat - '0'.toNat)) 0
    Decimal.toFloat a.isNegative m (d.place - n + 1)

/-- The whole part of a double below `2 ^ 64` in size. -/
def wholePart (x : Float) : Int :=
  if x < 0.0 then -(x.abs.toUInt64.toNat : Int) else x.toUInt64.toNat

/-- The nearest rounded number to a finite double. -/
def ofFloat (x : Float) (p : Nat) : Option Rounded :=
  match Binary.ofFloat x with
  | .finite negative m e => some (normalize negative m e p false)
  | _ => none

/-- The nearest double, for estimates. -/
def estimate (a : Rounded) : Float :=
  if a.magnitude > 1100 then (if a.isNegative then -1.0 / 0.0 else 1.0 / 0.0)
  else if a.magnitude < -1200 then 0.0
  else
    let b := normalize a.isNegative a.mantissa.natAbs a.exponent 53 false
    Float.scaleB (Float.ofInt b.mantissa) b.exponent

end Rounded

end DirectionField.Algebra
