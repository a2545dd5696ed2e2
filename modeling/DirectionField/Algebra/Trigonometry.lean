import DirectionField.Algebra.Builders
/-!
# Trigonometric and hyperbolic functions

Parity, exact values at multiples of `π / 4` and `π / 6`, shifts by multiples of `π / 2`, imaginary
arguments and compositions with the inverse functions. Values at other rational multiples of `π`
are brought into the first quadrant.
-/

namespace DirectionField.Algebra.Trigonometry

variable (B : Builders)

/-- A coefficient of `π` as an exact number: a rounded one counts when it is a multiple of the power
of two next to its fractional part. -/
def exactMultiple (c : Expr) : Option Rat :=
  match c with
  | .rational q => some q
  | .rounded r =>
    let q := r.toRat
    let whole : Int := if 0 ≤ q then q.floor else -(-q).floor
    let f := if 0 ≤ q then q - whole else whole - q
    if f == 0 then some whole
    else
      let p := -(Float.log2 (Rounded.ofRat f 53).estimate).round
      let m : Rat := (Nat.pow 2 p.toUInt64.toNat : Int)
      let s := q * m
      if s.den == 1 then some q else none
  | _ => none

/-- The rational multiple of `π` that the expression is. -/
def piMultiple? (e : Expr) : Option Rat :=
  match e with
  | .constant .pi => some 1
  | .product [c, p] => if p == .pi then exactMultiple c else none
  | _ => none

/-- Splits a sum into a multiple of `π / 2` and a rest; nothing when there is no such multiple. -/
def peelQuarters? (ts : List Expr) : Option (Expr × Rat) :=
  let multiples := ts.filterMap fun t =>
    match t with
    | .constant .pi => some (1 : Rat)
    | .product [.rational q, p] => if p == .pi then some q else none
    | _ => none
  let rest := ts.filter fun t =>
    match t with
    | .constant .pi => false
    | .product [.rational _, p] => p != .pi
    | _ => true
  let q := multiples.foldl (· + ·) 0
  if q == 0 then none
  else
    let whole := (2 * q).floor
    let m : Rat := mkRat whole 2
    let left := q - m
    if m == 0 then none
    else
      let parts := if left == 0 then rest else rest ++ [B.product [.rational left, .pi]]
      some (B.sum parts, m)

/-- The remainder of a rational number on division by a positive one. -/
def remainder (q m : Rat) : Rat := q - m * (q / m).floor

def sqrtOf (n : Nat) : Expr := .power (.ofInt n) .half

/-- The cosine of `q · π` for `q` between 0 and 1/2, where it is known. -/
def cosTable (q : Rat) : Option Expr :=
  if q == 0 then some .one
  else if q == mkRat 1 6 then some (.product [.half, sqrtOf 3])
  else if q == mkRat 1 4 then some (.product [.half, sqrtOf 2])
  else if q == mkRat 1 3 then some .half
  else if q == mkRat 1 2 then some .zero
  else none

/-- The cosine of a rational multiple of `π`. -/
def cosPi (q : Rat) : Expr :=
  let r := remainder q 2
  let r := if 1 < r then 2 - r else r
  let (negative, r) := if mkRat 1 2 < r then (true, 1 - r) else (false, r)
  let v := (cosTable r).getD (.call .cos [Expr.withCoefficient (.rational r) .pi])
  if negative then B.neg v else v

/-- The sine of a rational multiple of `π`. -/
def sinPi (q : Rat) : Expr :=
  let r := remainder q 2
  let (negative, r) := if 1 < r then (true, r - 1) else (false, r)
  let r := if mkRat 1 2 < r then 1 - r else r
  let v :=
    match cosTable (mkRat 1 2 - r) with
    | some v => v
    | none => .call .sin [Expr.withCoefficient (.rational r) .pi]
  if negative then B.neg v else v

/-- The tangent of a rational multiple of `π`. -/
def tanPi (q : Rat) : Expr :=
  let r := remainder q 1
  let (negative, r) := if mkRat 1 2 < r then (true, 1 - r) else (false, r)
  let v :=
    if r == mkRat 1 2 then .complexInfinity
    else
      match cosTable (mkRat 1 2 - r), cosTable r with
      | some s, some c => B.div s c
      | _, _ => .call .tan [Expr.withCoefficient (.rational r) .pi]
  if negative then B.neg v else v

/-- The value at a rounded argument, real or complex. -/
def atRounded (f : Fn) (e : Expr) : Option Expr := do
  let (z, p) ← e.roundedComplex?
  let g ← Expr.fnValue f
  let v := g z
  -- on the real axis the value is real wherever the real function is defined
  B.ofComplex v p

/-- `1 - a²` or `1 + a²` under a root. -/
def rootOfOne (sign : Expr) (a : Expr) : Expr :=
  B.sqrt (B.sum [.one, B.product [sign, B.power a (.ofInt 2)]])

def sin (e : Expr) : Expr :=
  if e.isZero then .zero
  else if e.isUndefined || e.isInfinite || e.isComplexInfinity then .undefined
  else if e.hasMinusSign then B.neg (B.apply .sin (B.neg e))
  else
    match atRounded B .sin e with
    | some v => v
    | none =>
      match B.imaginaryCoefficient e with
      | some c => B.product [.imaginaryUnit, B.apply .sinh c]
      | none =>
        match piMultiple? e with
        | some q => sinPi B q
        | none =>
          match e with
          | .sum ts =>
            match peelQuarters? B ts with
            | some (rest, m) =>
              B.sum [B.product [sinPi B m, B.apply .cos rest],
                B.product [cosPi B m, B.apply .sin rest]]
            | none => .call .sin [e]
          | .call .asin [a] => a
          | .call .acos [a] => rootOfOne B .negOne a
          | .call .atan [a] => B.div a (rootOfOne B .one a)
          | _ => if e.facts.isZero then .zero else .call .sin [e]

def cos (e : Expr) : Expr :=
  if e.isZero then .one
  else if e.isUndefined || e.isInfinite || e.isComplexInfinity then .undefined
  else if e.hasMinusSign then B.apply .cos (B.neg e)
  else
    match atRounded B .cos e with
    | some v => v
    | none =>
      match B.imaginaryCoefficient e with
      | some c => B.apply .cosh c
      | none =>
        match piMultiple? e with
        | some q => cosPi B q
        | none =>
          match e with
          | .sum ts =>
            match peelQuarters? B ts with
            | some (rest, m) =>
              B.sub (B.product [cosPi B m, B.apply .cos rest])
                (B.product [sinPi B m, B.apply .sin rest])
            | none => .call .cos [e]
          | .call .acos [a] => a
          | .call .asin [a] => rootOfOne B .negOne a
          | .call .atan [a] => B.inv (rootOfOne B .one a)
          | _ => if e.facts.isZero then .one else .call .cos [e]

def tan (e : Expr) : Expr :=
  if e.isZero then .zero
  else if e.isUndefined || e.isInfinite || e.isComplexInfinity then .undefined
  else if e.hasMinusSign then B.neg (B.apply .tan (B.neg e))
  else
    match atRounded B .tan e with
    | some v => v
    | none =>
      match B.imaginaryCoefficient e with
      | some c => B.product [.imaginaryUnit, B.apply .tanh c]
      | none =>
        match piMultiple? e with
        | some q => tanPi B q
        | none =>
          match e with
          | .sum ts =>
            match peelQuarters? B ts with
            | some (rest, m) =>
              if m.den == 1 then B.apply .tan rest else B.neg (B.inv (B.apply .tan rest))
            | none => .call .tan [e]
          | .call .atan [a] => a
          | .call .asin [a] => B.div a (rootOfOne B .negOne a)
          | .call .acos [a] => B.div (rootOfOne B .negOne a) a
          | _ => if e.facts.isZero then .zero else .call .tan [e]

/-! ## Inverse functions -/

/-- The rational multiple of `π` whose sine is the expression, between 0 and 1/2. -/
def arcsine? (e : Expr) : Option Rat :=
  let angles : List Rat := [mkRat 1 6, mkRat 1 4, mkRat 1 3, mkRat 1 2]
  angles.find? fun q => cosTable (mkRat 1 2 - q) == some e

def timesPi (q : Rat) : Expr := if q == 0 then .zero else Expr.withCoefficient (.rational q) .pi

/-- A constant angle brought to the one between `-π/2` and `π/2` with the same sine. -/
def principalSine (e : Expr) : Option Expr :=
  if !e.isNumeric then none
  else
    match e.estimate with
    | some v =>
      if !v.isReal then none
      else
        let k := ((v.value.re / 3.141592653589793) + 0.5).floor
        let n := Rounded.wholePart k
        let shifted := B.sum [e, B.product [.ofInt (-n), .pi]]
        some (if n % 2 == 0 then shifted else B.neg shifted)
    | none => none

/-- A constant angle brought to the one between 0 and `π` with the same cosine. -/
def principalCosine (e : Expr) : Option Expr :=
  if !e.isNumeric then none
  else
    match e.estimate with
    | some v =>
      if !v.isReal then none
      else
        let k := (v.value.re / 3.141592653589793).floor
        let n := Rounded.wholePart k
        if n % 2 == 0 then some (B.sum [e, B.product [.ofInt (-n), .pi]])
        else some (B.sum [B.product [.ofInt (n + 1), .pi], B.neg e])
    | none => none

/-- A constant angle brought to the one between `-π/2` and `π/2` with the same tangent. -/
def principalTangent (e : Expr) : Option Expr :=
  if !e.isNumeric then none
  else
    match e.estimate with
    | some v =>
      if !v.isReal then none
      else
        let k := ((v.value.re / 3.141592653589793) + 0.5).floor
        let n := Rounded.wholePart k
        some (B.sum [e, B.product [.ofInt (-n), .pi]])
    | none => none

def asin (e : Expr) : Expr :=
  if e.isZero then .zero
  else if e.isUndefined then .undefined
  else if e.isComplexInfinity then .complexInfinity
  else if e == .infinity then B.product [.negInfinity, .imaginaryUnit]
  else if e == .negInfinity then B.product [.infinity, .imaginaryUnit]
  else if e.hasMinusSign then B.neg (B.apply .asin (B.neg e))
  else if e == .one then timesPi (mkRat 1 2)
  else
    match arcsine? e with
    | some q => timesPi q
    | none =>
      match atRounded B .asin e with
      | some v => v
      | none =>
        match B.imaginaryCoefficient e, e with
        | some c, _ => B.product [.imaginaryUnit, B.apply .asinh c]
        | none, .call .sin [a] => (principalSine B a).getD (.call .asin [e])
        | none, _ => .call .asin [e]

def acos (e : Expr) : Expr :=
  if e.isZero then timesPi (mkRat 1 2)
  else if e.isUndefined then .undefined
  else if e.isComplexInfinity then .complexInfinity
  else if e == .infinity then B.product [.infinity, .imaginaryUnit]
  else if e == .negInfinity then B.product [.negInfinity, .imaginaryUnit]
  else if e == .one then .zero
  else if e == .negOne then .pi
  else
    match arcsine? e, arcsine? (B.neg e) with
    | some q, _ => timesPi (mkRat 1 2 - q)
    | none, some q => timesPi (mkRat 1 2 + q)
    | none, none =>
      match atRounded B .acos e with
      | some v => v
      | none =>
        match B.imaginaryCoefficient e, e with
        | some _, _ => B.sub (timesPi (mkRat 1 2)) (B.apply .asin e)
        | none, .call .cos [a] => (principalCosine B a).getD (.call .acos [e])
        | none, _ => .call .acos [e]

def atan (e : Expr) : Expr :=
  if e.isZero then .zero
  else if e.isUndefined || e.isComplexInfinity then .undefined
  else if e == .infinity then timesPi (mkRat 1 2)
  else if e == .negInfinity then timesPi (mkRat (-1) 2)
  else if e.hasMinusSign then B.neg (B.apply .atan (B.neg e))
  else if e == .one then timesPi (mkRat 1 4)
  else if e == sqrtOf 3 then timesPi (mkRat 1 3)
  else if e == .product [.rational (mkRat 1 3), sqrtOf 3] then timesPi (mkRat 1 6)
  else
    match atRounded B .atan e with
    | some v => v
    | none =>
      match B.imaginaryCoefficient e, e with
      | some c, _ => B.product [.imaginaryUnit, B.apply .atanh c]
      | none, .call .tan [a] => (principalTangent B a).getD (.call .atan [e])
      | none, _ => .call .atan [e]

/-! ## Hyperbolic functions -/

def sinh (e : Expr) : Expr :=
  if e.isZero then .zero
  else if e.isUndefined || e.isComplexInfinity then .undefined
  else if e.isInfinite then e
  else if e.hasMinusSign then B.neg (B.apply .sinh (B.neg e))
  else
    match atRounded B .sinh e with
    | some v => v
    | none =>
      match B.imaginaryCoefficient e, e with
      | some c, _ => B.product [.imaginaryUnit, B.apply .sin c]
      | none, .call .asinh [a] => a
      | none, _ => .call .sinh [e]

def cosh (e : Expr) : Expr :=
  if e.isZero then .one
  else if e.isUndefined || e.isComplexInfinity then .undefined
  else if e.isInfinite then .infinity
  else if e.hasMinusSign then B.apply .cosh (B.neg e)
  else
    match atRounded B .cosh e with
    | some v => v
    | none =>
      match B.imaginaryCoefficient e, e with
      | some c, _ => B.apply .cos c
      | none, .call .asinh [a] => rootOfOne B .one a
      | none, _ => .call .cosh [e]

def tanh (e : Expr) : Expr :=
  if e.isZero then .zero
  else if e.isUndefined || e.isComplexInfinity then .undefined
  else if e == .infinity then .one
  else if e == .negInfinity then .negOne
  else if e.hasMinusSign then B.neg (B.apply .tanh (B.neg e))
  else
    match atRounded B .tanh e with
    | some v => v
    | none =>
      match B.imaginaryCoefficient e, e with
      | some c, _ => B.product [.imaginaryUnit, B.apply .tan c]
      | none, .call .atanh [a] => a
      | none, _ => .call .tanh [e]

def asinh (e : Expr) : Expr :=
  if e.isZero then .zero
  else if e.isUndefined || e.isComplexInfinity then .undefined
  else if e.isInfinite then e
  else if e.hasMinusSign then B.neg (B.apply .asinh (B.neg e))
  else
    match atRounded B .asinh e with
    | some v => v
    | none =>
      match B.imaginaryCoefficient e, e with
      | some c, _ => B.product [.imaginaryUnit, B.apply .asin c]
      | none, _ => .call .asinh [e]

def atanh (e : Expr) : Expr :=
  if e.isZero then .zero
  else if e.isUndefined || e.isComplexInfinity then .undefined
  else if e == .one then .infinity
  else if e.hasMinusSign then B.neg (B.apply .atanh (B.neg e))
  else
    match atRounded B .atanh e with
    | some v => v
    | none =>
      match B.imaginaryCoefficient e, e with
      | some c, _ => B.product [.imaginaryUnit, B.apply .atan c]
      | none, _ => .call .atanh [e]

end DirectionField.Algebra.Trigonometry
