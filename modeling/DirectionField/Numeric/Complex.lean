/-!
# Complex doubles

Rectangular complex numbers over doubles with the elementary functions, each reduced to the real
functions of its parts. A function of a number with imaginary part zero inside the real domain is
the real function, with imaginary part zero again.
-/

namespace DirectionField.Numeric

/-- The number `re + im · i`. -/
structure Complex where
  re : Float
  im : Float

namespace Complex

def ofReal (x : Float) : Complex := ⟨x, 0.0⟩

def unit : Complex := ⟨0.0, 1.0⟩

def add (a b : Complex) : Complex := ⟨a.re + b.re, a.im + b.im⟩

def sub (a b : Complex) : Complex := ⟨a.re - b.re, a.im - b.im⟩

def neg (a : Complex) : Complex := ⟨-a.re, -a.im⟩

def mul (a b : Complex) : Complex :=
  ⟨a.re * b.re - a.im * b.im, a.re * b.im + a.im * b.re⟩

def isZero (a : Complex) : Bool := a.re == 0.0 && a.im == 0.0

/-- The distance from the origin, without overflow on the way. -/
def abs (a : Complex) : Float :=
  let x := a.re.abs
  let y := a.im.abs
  if x.isInf || y.isInf then 1.0 / 0.0
  else
    let big := if x < y then y else x
    let small := if x < y then x else y
    if big == 0.0 then 0.0
    else
      let r := small / big
      big * (1.0 + r * r).sqrt

def arg (a : Complex) : Float := Float.atan2 a.im a.re

/-- The quotient, scaled by the larger part of the divisor. -/
def div (a b : Complex) : Complex :=
  if b.im.abs ≤ b.re.abs then
    let r := b.im / b.re
    let d := b.re + b.im * r
    ⟨(a.re + a.im * r) / d, (a.im - a.re * r) / d⟩
  else
    let r := b.re / b.im
    let d := b.re * r + b.im
    ⟨(a.re * r + a.im) / d, (a.im * r - a.re) / d⟩

def exp (a : Complex) : Complex :=
  let r := a.re.exp
  if a.im == 0.0 then ⟨r, a.im⟩ else ⟨r * a.im.cos, r * a.im.sin⟩

def log (a : Complex) : Complex := ⟨a.abs.log, a.arg⟩

def sqrt (a : Complex) : Complex :=
  if a.im == 0.0 then
    if 0.0 ≤ a.re then ⟨a.re.sqrt, a.im⟩ else ⟨0.0, (-a.re).sqrt⟩
  else
    let t := ((a.abs + a.re.abs) / 2.0).sqrt
    if 0.0 ≤ a.re then ⟨t, a.im / (2.0 * t)⟩
    else ⟨a.im.abs / (2.0 * t), if a.im < 0.0 then -t else t⟩

def sin (a : Complex) : Complex := ⟨a.re.sin * a.im.cosh, a.re.cos * a.im.sinh⟩

def cos (a : Complex) : Complex := ⟨a.re.cos * a.im.cosh, -(a.re.sin * a.im.sinh)⟩

def tan (a : Complex) : Complex := div (sin a) (cos a)

def sinh (a : Complex) : Complex := ⟨a.re.sinh * a.im.cos, a.re.cosh * a.im.sin⟩

def cosh (a : Complex) : Complex := ⟨a.re.cosh * a.im.cos, a.re.sinh * a.im.sin⟩

def tanh (a : Complex) : Complex := div (sinh a) (cosh a)

/-- `-i log (i a + sqrt (1 - a²))`. -/
def asin (a : Complex) : Complex :=
  if a.im == 0.0 && a.re.abs ≤ 1.0 then ⟨a.re.asin, a.im⟩
  else
    let w := log (add (mul unit a) (sqrt (sub (ofReal 1.0) (mul a a))))
    ⟨w.im, -w.re⟩

def acos (a : Complex) : Complex :=
  if a.im == 0.0 && a.re.abs ≤ 1.0 then ⟨a.re.acos, -a.im⟩
  else
    let w := asin a
    ⟨Float.acos 0.0 - w.re, -w.im⟩

/-- `i / 2 · (log (1 - i a) - log (1 + i a))`. -/
def atan (a : Complex) : Complex :=
  if a.im == 0.0 then ⟨a.re.atan, a.im⟩
  else
    let ia := mul unit a
    let w := sub (log (sub (ofReal 1.0) ia)) (log (add (ofReal 1.0) ia))
    ⟨-w.im / 2.0, w.re / 2.0⟩

def asinh (a : Complex) : Complex :=
  let w := asin (mul unit a)
  ⟨w.im, -w.re⟩

def atanh (a : Complex) : Complex :=
  let w := atan (mul unit a)
  ⟨w.im, -w.re⟩

/-- A power with a natural exponent by repeated squaring. -/
def powNat (a : Complex) (n : Nat) : Complex :=
  if h : n = 0 then ofReal 1.0
  else
    let half := powNat (mul a a) (n / 2)
    if n % 2 == 1 then mul half a else half
termination_by n
decreasing_by omega

/-- The power in polar form; a whole exponent of size at most 100 by repeated multiplication.
`none` for a zero base with an exponent that is not a non-negative real. -/
def pow (a b : Complex) : Option Complex :=
  if b.im == 0.0 && b.re == b.re.floor && b.re.abs ≤ 100.0 then
    let n := b.re.abs.toUInt64.toNat
    if 0.0 ≤ b.re then some (powNat a n)
    else if a.isZero then none
    else some (div (ofReal 1.0) (powNat a n))
  else if b.isZero then some (ofReal 1.0)
  else if a.isZero then
    if b.im != 0.0 || b.re < 0.0 then none else some (ofReal 0.0)
  else
    let r := a.abs
    let t := a.arg
    let len := Float.pow r b.re
    let phase := t * b.re
    if b.im == 0.0 then some ⟨len * phase.cos, len * phase.sin⟩
    else
      let len := len / Float.exp (t * b.im)
      let phase := phase + b.im * r.log
      some ⟨len * phase.cos, len * phase.sin⟩

end Complex

end DirectionField.Numeric
