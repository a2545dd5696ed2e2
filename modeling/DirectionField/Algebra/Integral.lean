import DirectionField.Algebra.Builders
import DirectionField.Numeric.Gamma
/-!
# Floors, remainders, factorials and extrema

Resolved for constants; otherwise whole terms leave the floor, common factors leave the remainder
and decided comparisons shorten an extremum.
-/

namespace DirectionField.Algebra.Integral

variable (B : Builders)

/-- The floor of a constant that its estimate determines. -/
def floorConstant (e : Expr) : Option Int :=
  match e with
  | .rational q => some q.floor
  | .rounded r => some r.toRat.floor
  | _ =>
    match e.estimate with
    | some v =>
      let x := v.value.re
      let k := x.floor
      let margin := 4.0 * v.error
      if v.isReal && x.abs < 1.0e15 && margin < x - k && margin < k + 1.0 - x then
        some (Rounded.wholePart k)
      else none
    | none => none

def floor (e : Expr) : Expr :=
  if e.isInfinite || e.isUndefined || e.isComplexInfinity then e
  else
    match floorConstant e with
    | some n => .ofInt n
    | none =>
      if e.facts.integer then e
      else
        match e with
        | .sum ts =>
          let whole := ts.filter fun t => t.facts.integer
          if whole.isEmpty then .call .floor [e]
          else B.sum (whole ++ [B.apply .floor (B.sum (ts.filter fun t => !t.facts.integer))])
        | _ => .call .floor [e]

/-- The remainder of numbers; the divisor is not zero. -/
def remainderNumbers (p q : Expr) : Option Expr :=
  match p, q with
  | .rational a, .rational b => some (.rational (a - b * (a / b).floor))
  | _, _ =>
    match Expr.commonPrecision p q with
    | some prec => do
      let a ← p.roundedAt prec
      let b ← q.roundedAt prec
      let k := (a.toRat / b.toRat).floor
      return .ofRounded (a.add ((Rounded.ofInt (-k) prec).mul b))
    | none => none

/-- The remainder where it is a number or follows from a quotient of constants. -/
def remainderKnown (p q : Expr) : Option Expr :=
  if p.isUndefined || q.isUndefined || p.facts.finite == some false || q.facts.finite == some false
  then some .undefined
  else if p == .zero || p == q || p == B.neg q || (p.facts.integer && q == .one) then some .zero
  else
    match if p.isNumber && q.isNumber then remainderNumbers p q else none with
    | some v => some v
    | none =>
      let r := B.div p q
      if r.facts.integer then some .zero
      else if !r.isNumeric then none
      else
        (floorConstant r).map fun k => B.sub p (B.product [.ofInt k, q])

/-- The positive whole exponent of a symbol in a product, zero when it is no factor. -/
def exponentOf (v : Symbol) (e : Expr) : Nat :=
  (e.factors.map fun f =>
    match f with
    | .symbol s => if s == v then 1 else 0
    | .power (.symbol s) (.rational k) => if s == v && k.den == 1 then k.num.toNat else 0
    | _ => 0).foldl max 0

/-- The symbols that are factors of all terms, each with its smallest exponent. -/
def commonFactors (ts : List Expr) : List Expr :=
  (ts.flatMap Expr.symbols).eraseDups.filterMap fun s =>
    match (ts.map (exponentOf s)).min? with
    | some k => if k == 0 then none else some (B.power (.symbol s) (.ofInt k))
    | none => none

/-- The greatest common divisor of the coefficients when all are whole, otherwise one. -/
def commonContent (ts : List Expr) : Rat :=
  let cs := ts.map fun t => t.splitRational.1
  if cs.all fun c => c.den == 1 then ((cs.foldl (fun g c => Nat.gcd g c.num.natAbs) 0 : Nat) : Int)
  else 1

/-- A rounded coefficient of the divisor that goes into the coefficient of the dividend, with the
dividend and the divisor over it. -/
def roundedContent (p q : Expr) : Option (Expr × Expr × Expr) :=
  let (c, p') := p.splitCoefficient
  let (d, q') := q.splitCoefficient
  if p.isSum || c.isRational && d.isRational || d.isZero then none
  else
    match remainderNumbers c d with
    | some r =>
      if r.isZero then
        let k :=
          match c.divNumbers d with
          | .rational k => k.floor
          | .rounded k => k.toRat.floor
          | _ => 1
        some (d, B.product [p', .ofInt k], q')
      else none
    | none => none

/-- The terms of a sum with their remainders put for those that have one. -/
def reduceTerms (p q : Expr) : Expr :=
  match p with
  | .sum ts =>
    let isOpen := Expr.has (Expr.isCall .modulo)
    let reduced := ts.map fun t =>
      let r := B.call .modulo [t, q]
      if isOpen r then t else r
    if reduced == ts then p else B.sum reduced
  | _ => p

def modulo (p q : Expr) : Expr :=
  match remainderKnown B p q with
  | some v => v
  | none =>
    let ts := p.terms ++ q.terms
    let rounded := ts.any (Expr.has Expr.isRounded)
    let g := B.product (.rational (if rounded then 1 else commonContent ts) :: commonFactors B ts)
    let divide (e : Expr) : Expr := if g == .one then e else B.sum (e.terms.map fun t => B.div t g)
    let (p', q') := (divide p, divide q)
    let (g, p'', q'') :=
      match roundedContent B p' q' with
      | some (d, a, b) => (B.product [g, d], a, b)
      | none => (g, reduceTerms B p' q', q')
    match remainderKnown B p'' q'' with
    | some v => B.product [g, v]
    | none =>
      if p'' == p' && q'' == q' then B.product [g, .call .modulo [p', q']]
      else B.product [g, B.call .modulo [p'', q'']]

/-- The product of the numbers from `n` down in steps of `step`. -/
def descending (step n : Nat) : Nat :=
  if _h : n = 0 ∨ step = 0 then 1 else n * descending step (n - step)
termination_by n
decreasing_by omega

def factorial (e : Expr) : Expr :=
  match e with
  | .constant .infinity => .infinity
  | .constant .undefined => .undefined
  | .rounded r =>
    ((Numeric.gamma (r.estimate + 1.0)).bind fun v =>
      (Rounded.ofFloat v r.precision).map Expr.ofRounded).getD (.call .factorial [e])
  | _ =>
    match e.int? with
    | some n =>
      if n < 0 then .complexInfinity
      else if n ≤ 20000 then .ofInt (descending 1 n.toNat)
      else .call .factorial [e]
    | none => .call .factorial [e]

/-- Whether the double factorial leaves the number out: one that is not whole, or is negative and
even. -/
def lacksDoubleFactorial (e : Expr) : Bool :=
  e.isNumber &&
    match e.int? with
    | some n => n < 0 && n % 2 == 0
    | none => true

/-- The double factorial; at a negative odd number `n` it is `± n` over that of `-n`. -/
def doubleFactorial (e : Expr) : Expr :=
  match e.int? with
  | some n =>
    if 20000 < n.natAbs then .call .doubleFactorial [e]
    else if 0 ≤ n then .ofInt (descending 2 n.toNat)
    else
      let sign : Int := if (1 - n) / 2 % 2 == 0 then 1 else -1
      .rational (mkRat (sign * n) (descending 2 n.natAbs))
  | none => .call .doubleFactorial [e]

/-- Whether `a ≤ b` is decided. -/
def atMost (a b : Expr) : Option Bool :=
  if a == .negInfinity || b == .infinity then some true
  else if a == .infinity || b == .negInfinity then some (a == b)
  else
    let d := (B.sub b a).facts
    match d.nonnegative with
    | some v => if d.isReal then some v else none
    | none => none

def extremum (larger : Bool) (args : List Expr) : Expr :=
  let f := if larger then Fn.maximum else Fn.minimum
  let flat := args.flatMap fun a =>
    match a with
    | .call g inner => if g == f then inner else [a]
    | _ => [a]
  let wins (a b : Expr) : Bool := (if larger then atMost B b a else atMost B a b) == some true
  let step (kept : List Expr) (a : Expr) : List Expr :=
    if kept.any fun k => wins k a then kept else kept.filter (fun k => !wins a k) ++ [a]
  match flat.foldl step [] with
  | [] => if larger then .negInfinity else .infinity
  | [a] => a
  | kept => if kept.any Expr.isUndefined then .undefined else .call f (Expr.sorted kept)

end DirectionField.Algebra.Integral
