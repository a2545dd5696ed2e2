import DirectionField.Algebra.Builders
/-!
# Exponential and logarithm

The exponential undoes the logarithm, splits over sums and is known at multiples of `π i`; the
logarithm undoes the exponential of a real. Logarithms to a base take out exact powers of it.
-/

namespace DirectionField.Algebra

namespace Rounded

/-- The exponential, the whole part of its binary logarithm kept apart. -/
def exp (r : Rounded) : Option Rounded :=
  let x := r.estimate
  if x.abs < 700.0 then Rounded.ofFloat x.exp r.precision
  else if x.isFinite then
    let t := (x * 1.4426950408889634).floor
    let k := wholePart t
    (Rounded.ofFloat (Float.exp (x - t * 0.6931471805599453)) r.precision).map fun s =>
      { s with exponent := s.exponent + k }
  else none

/-- The logarithm of a positive number. -/
def log (r : Rounded) : Option Rounded :=
  if r.magnitude.natAbs < 1000 then Rounded.ofFloat r.estimate.log r.precision
  else
    let m := r.mantissa.natAbs
    let lead := (normalize false m (-(bits m : Int)) 53 false).estimate
    Rounded.ofFloat (lead.log + Float.ofInt r.magnitude * 0.6931471805599453) r.precision

end Rounded

namespace Exponential

variable (B : Builders)

/-- The rational multiple of `π i` that the expression is. -/
def turn? (e : Expr) : Option Rat :=
  match e with
  | .product [.rational q, a, b] => if isPiUnit a b then some q else none
  | .product [a, b] => if isPiUnit a b then some 1 else none
  | _ => none
where
  isPiUnit (a b : Expr) : Bool :=
    (a == .pi && b == .imaginaryUnit) || (b == .pi && a == .imaginaryUnit)

/-- The exponential of a rational multiple of `π i`: known at multiples of `π i / 2`, and otherwise
brought into the range from `-π` to `π`. -/
def ofTurn (q : Rat) : Option Expr :=
  let r := q - 2 * (q / 2).floor
  if r == 0 then some .one
  else if r == 1 then some .negOne
  else if r == mkRat 1 2 then some .imaginaryUnit
  else if r == mkRat 3 2 then some (B.neg .imaginaryUnit)
  else
    let s := if 1 < r then r - 2 else r
    if s == q then none
    else some (B.apply .exp (B.product [.rational s, .pi, .imaginaryUnit]))

/-- The exponential of a product with one logarithm and otherwise real constants is a power. -/
def ofLogarithmicProduct (fs : List Expr) : Option Expr :=
  let logs := fs.filter (Expr.isCall .log)
  let rest := fs.filter fun f => !f.isCall .log
  match logs with
  | [.call .log [a]] =>
    if rest.all fun f => f.isNumber || (f.isNumeric && f.isReal) then
      some (B.power a (B.product rest))
    else none
  | _ => none

/-- An infinite number times a constant. -/
def ofInfiniteProduct (negative : Bool) (rest : List Expr) : Option Expr :=
  match (Expr.product rest).estimate with
  | some v =>
    let re := if negative then -v.value.re else v.value.re
    if v.value.re.abs ≤ 4.0 * v.error then some .undefined
    else if 0.0 < re then some (if v.isReal then .infinity else .complexInfinity)
    else some .zero
  | none => none

/-- The terms of a sum whose exponentials are known leave the exponential as factors. -/
def ofSum (ts : List Expr) : Option Expr :=
  let step (acc : List Expr × List Expr × Bool) (t : Expr) : List Expr × List Expr × Bool :=
    let (out, inside, changed) := acc
    if t == .one then (out, inside ++ [t], changed)
    else
      match B.apply .exp t with
      | .call .exp [s] => (out, inside ++ [s], changed || s != t)
      | e => (out ++ [e], inside, changed)
  let (out, inside, changed) := ts.foldl step ([], [], false)
  if out.isEmpty && !changed then none
  else if inside.isEmpty then some (B.product out)
  else
    match B.sum inside with
    | .sum rest => some (B.product (out ++ [.call .exp [.sum rest]]))
    | e => some (B.product (out ++ [B.apply .exp e]))

def exp (e : Expr) : Expr :=
  if e.isComplexInfinity then .undefined
  else
    let known : Option Expr :=
      match e with
      | .rational q => if q == 0 then some .one else if q == 1 then some (.constant .e) else none
      | .rounded r => if r.isZero then some .one else r.exp.map Expr.rounded
      | .constant .undefined => some .undefined
      | .constant .infinity => some .infinity
      | .constant .negInfinity => some .zero
      | .call .log [a] => some a
      | .product fs =>
        match turn? e with
        | some q => ofTurn B q
        | none =>
          match fs with
          | .constant .infinity :: rest => ofInfiniteProduct false rest
          | .constant .negInfinity :: rest => ofInfiniteProduct true rest
          | _ => ofLogarithmicProduct B fs
      | .sum ts => ofSum B ts
      | _ => none
    known.getD (.call .exp [e])

/-! ## Logarithm -/

/-- How often `p` divides `n`, for `p` above one; the other cases have no multiplicity. -/
def multiplicity (p n : Int) : Option Nat :=
  if p ≤ 1 || n == 0 then none else some (count (Rounded.bits n.natAbs) n)
where
  count (fuel : Nat) (n : Int) : Nat :=
    match fuel with
    | 0 => 0
    | fuel + 1 => if n % p == 0 then count fuel (n / p) + 1 else 0

def log (e : Expr) : Expr :=
  let known : Option Expr :=
    match e with
    | .rational q =>
      if q == 0 then some .complexInfinity
      else if q == 1 then some .zero
      else if q.num == 1 then some (B.neg (B.apply .log (.ofInt q.den)))
      else none
    | .rounded r =>
      if r.isZero then some .complexInfinity
      else if r.isNegative then none else r.log.map Expr.ofRounded
    | .constant .infinity | .constant .negInfinity => some .infinity
    | .constant .undefined => some .undefined
    | .constant .complexInfinity => some .complexInfinity
    | .constant .e => some .one
    | .call .exp [a] => if a.isReal then some a else none
    | _ => none
  match known with
  | some v => v
  | none =>
    if e.isNumeric && e.facts.isNegative then
      B.sum [B.product [.pi, .imaginaryUnit], B.apply .log (B.neg e)]
    else if e.facts.isZero then .complexInfinity
    else
      match if e.isSum then none else B.imaginaryCoefficient e with
      | some (.rational q) =>
        let half := mkRat (if 0 ≤ q then 1 else -1) 2
        B.sum [B.product [.rational half, .pi, .imaginaryUnit],
          B.apply .log (.rational (if 0 ≤ q then q else -q))]
      | _ => .call .log [e]

/-- The logarithm to a base. -/
def logBase (e b : Expr) : Expr :=
  if b == .one then (if e == .one then .undefined else .complexInfinity)
  else
    let quotient := B.div (B.apply .log e) (B.apply .log b)
    match b.int?, e.int? with
    | some p, some n =>
      match multiplicity p n with
      | some k =>
        if k == 0 then quotient
        else
          B.sum [.ofInt k, B.div (B.apply .log (.rational (mkRat n (Int.pow p k).natAbs)))
            (B.apply .log b)]
      | none => quotient
    | _, _ => if b == .constant .e then B.apply .log e else quotient

end Exponential

end DirectionField.Algebra
