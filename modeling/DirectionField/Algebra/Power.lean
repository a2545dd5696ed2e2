import DirectionField.Algebra.Builders
/-!
# Powers

Powers of numbers are computed: exactly where the result is rational, with perfect factors taken
out of roots, and rounded when a rounded number takes part. A power of a power or of a product is
joined where this holds for all real `x` and `y`.
-/

namespace DirectionField.Algebra.Power

/-- The largest `r` with `r ^ k ≤ n`. -/
def root (n k : Nat) : Nat :=
  if k = 0 then 1
  else go (Rounded.bits n / k + 1) 0
where
  /-- Tries the bits of the root from `2 ^ (i - 1)` down. -/
  go (i acc : Nat) : Nat :=
    match i with
    | 0 => acc
    | i + 1 => if Nat.pow (acc + Nat.pow 2 i) k ≤ n then go i (acc + Nat.pow 2 i) else go i acc

def exactRoot? (n k : Nat) : Option Nat :=
  let r := root n k
  if Nat.pow r k == n then some r else none

/-- The multiplicity of `p` in `n` and the cofactor. -/
def strip (fuel n p k : Nat) : Nat × Nat :=
  match fuel with
  | 0 => (k, n)
  | fuel + 1 => if p ≤ 1 || n == 0 || n % p != 0 then (k, n) else strip fuel (n / p) p (k + 1)

/-- The prime factors of `n` below a bound by trial division; what remains counts as one factor. -/
def factorize (n : Nat) : List (Nat × Nat) :=
  go 4096 2 n
where
  go (fuel p n : Nat) : List (Nat × Nat) :=
    match fuel with
    | 0 => if n ≤ 1 then [] else [(n, 1)]
    | fuel + 1 =>
      if n ≤ 1 then []
      else if n < p * p then [(n, 1)]
      else
        let (k, m) := strip (Rounded.bits n) n p 0
        let next := if p == 2 then 3 else p + 2
        if k == 0 then go fuel next n else (p, k) :: go fuel next m

variable (B : Builders)

/-- A fractional power of a positive integer, perfect factors taken out. The exponent `k` is
positive and not whole. -/
def rootOfNat (n : Nat) (k : Rat) : Expr :=
  let p := k.num.natAbs
  let q := k.den
  match exactRoot? n q with
  | some r => .rational (Nat.pow r p : Int)
  | none =>
    let fs := (factorize n).map fun f => (f.1, f.2 * p)
    let outside : Nat := fs.foldl (fun acc f => acc * Nat.pow f.1 (f.2 / q)) 1
    let inner := (fs.map fun f => (f.1, f.2 % q)).filter fun f => f.2 != 0
    let shared := inner.filter fun f => Nat.gcd f.2 q != 1
    let rest := inner.filter fun f => Nat.gcd f.2 q == 1
    let radicals := shared.map fun f =>
      let g := Nat.gcd f.2 q
      B.power (.ofInt f.1) (.rational (mkRat (f.2 / g) (q / g)))
    let g : Nat := rest.foldl (fun g f => Nat.gcd g f.2) 0
    let radicand : Nat := rest.foldl (fun acc f => acc * Nat.pow f.1 (f.2 / g)) 1
    if radicand == n && outside == 1 && radicals.isEmpty then .power (.ofInt n) (.rational k)
    else
      let last : List Expr :=
        if radicand == 1 then []
        else if radicand == n then [.power (.ofInt n) (.rational (mkRat g q))]
        else [B.power (.ofInt radicand) (.rational (mkRat g q))]
      B.product (.ofInt outside :: (radicals ++ last))

/-- A power of minus one with a fractional exponent. -/
def powNegOne (k : Rat) : Expr :=
  let whole := k.floor
  let rest := k - whole
  let odd := whole % 2 != 0
  if rest == 0 then (if odd then .negOne else .one)
  else
    let r : Expr := if rest == mkRat 1 2 then .imaginaryUnit else .power .negOne (.rational rest)
    if odd then .product [.negOne, r] else r

/-- The whole power of a rational number. Powers with more than four million bits are left out. -/
def powRatInt (q : Rat) (k : Int) : Option Expr :=
  let size := max (Rounded.bits q.num.natAbs) (Rounded.bits q.den)
  if 1 < size && 4000000 < size * k.natAbs then none
  else if 0 ≤ k then some (.rational (q ^ k.toNat))
  else if q == 0 then some .complexInfinity
  else some (.rational ((q ^ k.natAbs)⁻¹))

/-- A fractional power of a rational number other than 0, 1 and -1. -/
def powRatRat (q k : Rat) : Option Expr :=
  if q.den == 1 then
    let n := q.num.natAbs
    if q < 0 then
      if k == mkRat 1 2 then some (B.product [.imaginaryUnit, B.power (.ofInt n) (.rational k)])
      else if k < 0 then
        some (B.product [powNegOne k, B.power (.rational (mkRat 1 n)) (.rational (-k))])
      else
        match rootOfNat B n k with
        | .power (.rational m) l =>
          if m == (n : Int) && l == .rational k then none
          else some (B.product [.power (.rational m) l, powNegOne k])
        | e => some (B.product [e, powNegOne k])
    else if k < 0 then some (B.power (.rational (mkRat 1 n)) (.rational (-k)))
    else
      match rootOfNat B n k with
      | .power (.rational m) l =>
        if m == (n : Int) && l == .rational k then none else some (.power (.rational m) l)
      | e => some e
  else if k < 0 then
    if q < 0 then some (B.product [powNegOne k, B.power (.rational (-q)⁻¹) (.rational (-k))])
    else some (B.power (.rational q⁻¹) (.rational (-k)))
  else
    -- `(a / b) ^ k = a ^ k · b ^ (n - k) / b ^ n` for the next whole `n`
    let n := k.floor + 1
    let denominator := .rational (mkRat 1 (Nat.pow q.den n.toNat))
    let root := B.power (.ofInt q.den) (.rational (n - k))
    let numerator := if q.num == 1 then [] else [B.power (.ofInt q.num) (.rational k)]
    some (B.product (numerator ++ [root, denominator]))

/-- A power of doubles in rounded numbers: `none` when it is not real. -/
def powRounded (b e : Rounded) (p : Nat) : Option Rounded :=
  if e.isInteger && e.magnitude < 64 then
    some (({ b with precision := p }).powInt (e.mantissa * Nat.pow 2 e.exponent.toNat))
  else if b.isNegative then none
  else
    -- `2 ^ (e · log₂ b)` with the whole part of the exponent kept apart
    let m := b.mantissa.natAbs
    let size := Rounded.bits m
    let lead := (Rounded.normalize false m (-(size : Int)) 53 false).estimate
    let log2 := Float.log2 lead + Float.ofInt (b.exponent + size)
    let t := e.estimate * log2
    let whole := t.floor
    let k := Rounded.wholePart whole
    (Rounded.ofFloat (Float.exp2 (t - whole)) p).map fun r => { r with exponent := r.exponent + k }

/-- A power of a rounded number. -/
def powOfRounded (r : Rounded) (e : Expr) : Option Expr :=
  match e with
  | .rational k =>
    if k.den == 1 then
      if r.isZero && k < 0 then some .complexInfinity else some (.ofRounded (r.powInt k.num))
    else if r.isZero then some (if k < 0 then .complexInfinity else .zero)
    else if r.isNegative && k.num == 1 && k.den % 2 == 1 then
      some (B.product [.power .negOne e, B.power (.rounded r.neg) e])
    else general (.ofRat k r.precision)
  | .rounded s =>
    if r.isZero then
      some (if s.isZero then .rounded (.ofInt 1 r.precision)
        else if s.isNegative then .complexInfinity else .rounded r)
    else general s
  | _ =>
    if r.isZero then
      let f := e.facts
      if f.isPositive then some (.rounded r)
      else if f.isNegative then some .complexInfinity
      else none
    else none
where
  general (s : Rounded) : Option Expr :=
    let p := max r.precision s.precision
    match powRounded r s p with
    | some v => some (.ofRounded v)
    | none =>
      ((Numeric.Complex.ofReal r.estimate).pow (.ofReal s.estimate)).bind fun z => B.ofComplex z p

/-- A power of a rational number. -/
def powOfRational (q : Rat) (e : Expr) : Option Expr :=
  match e with
  | .rational k =>
    if k.den == 1 then powRatInt q k.num
    else if q == 0 then some (if k < 0 then .complexInfinity else .zero)
    else if q == -1 then some (powNegOne k)
    else powRatRat B q k
  | .rounded s =>
    if q == 0 then
      some (if s.isZero then .one else if s.isNegative then .complexInfinity else .zero)
    else powOfRounded B (.ofRat q s.precision) e
  | .constant .infinity =>
    some (if q == 0 then .zero else if q == -1 then .undefined else if 1 < q then .infinity
      else if q < -1 then B.sum [.infinity, .product [.infinity, .imaginaryUnit]] else .zero)
  | .constant .negInfinity =>
    some (if q == 0 then .complexInfinity else if q == -1 then .undefined
      else B.power (.rational q⁻¹) .infinity)
  | _ =>
    if q == 0 then
      let f := e.facts
      if f.isPositive then some .zero
      else if f.isNegative then some .complexInfinity
      else if f.real == some false then some .undefined
      else
        let (c, t) := e.splitCoefficient
        if c.numberSign == some (-1) then some (B.power .complexInfinity t)
        else if c != .one then some (B.power .zero t)
        else none
    else none

/-- A power of an infinite number. -/
def powOfInfinite (negative : Bool) (e : Expr) : Option Expr :=
  let f := e.facts
  if e.isUndefined || e.isComplexInfinity then some .undefined
  else if !negative then
    if f.isPositive then some .infinity else if f.isNegative then some .zero else none
  else
    match e.int? with
    | some k => some (if k < 0 then .zero else if k % 2 == 0 then .infinity else .negInfinity)
    | none =>
      if e.isInfinite then some .undefined
      else if f.isNegative && e.isNumeric then some .zero
      else if f.isPositive && e.isNumeric then some (B.product [B.power .negOne e, .infinity])
      else none

def powOfComplexInfinity (e : Expr) : Option Expr :=
  if e.isComplexInfinity then some .undefined
  else if e.isNumber then
    if e.isZero then some .undefined
    else some (if e.numberSign == some 1 then .complexInfinity else .zero)
  else none

def powOfUnit (e : Expr) : Option Expr :=
  match e with
  | .rational k =>
    if k.den == 1 then some (powNegOne (k / 2))
    else
      let whole := (k / 2).floor
      let rest := k - 2 * whole
      let r := Expr.power .imaginaryUnit (.rational rest)
      some (if whole % 2 != 0 then .product [.negOne, r] else r)
  | _ => none

/-- Whether the exponent is a fraction with denominator two. -/
def isHalf (e : Expr) : Bool := e.rational?.any (·.den == 2)

/-- A power of the power `b ^ e`: the exponents are multiplied when the outer one is whole, or when
the inner power does not leave the principal branch. -/
def powOfPower (b e outer : Expr) : Option Expr :=
  let joined (b : Expr) : Expr := B.power b (B.product [e, outer])
  if outer.facts.integer then some (joined b)
  else if e.facts.real != some true then none
  else if e == .negOne && isHalf outer && b.facts.negative.isSome then
    if b.facts.isNegative then
      some (B.product [B.power .negOne outer, B.power (B.neg b) (B.product [e, outer])])
    else some (B.power b (B.neg outer))
  else
    let even := e.int?.any (· % 2 == 0)
    let b := if even && b.isReal then B.apply .abs b else b
    let small :=
      match e with
      | .rational k => -1 < k && k ≤ 1
      | .rounded r => -1 < r.toRat && r.toRat < 1
      | _ => e.isNumeric && e.estimate.any fun v => v.value.re.abs < 1.0
    if small || b.facts.isNonnegative then some (joined b)
    else none

/-- A fractional power of a product: factors that are not negative leave the root, negative ones
in pairs. -/
def powOfFactors (fs : List Expr) (e : Expr) : Option Expr :=
  let nonneg := fs.filter fun f => f.facts.nonnegative == some true
  let neg := fs.filter fun f => f.facts.nonnegative == some false && f != Expr.imaginaryUnit
  let other := fs.filter fun f => f.facts.nonnegative == none
  let (neg, other) :=
    if fs.contains Expr.imaginaryUnit then (neg, other ++ [Expr.imaginaryUnit]) else (neg, other)
  let (nonneg, other) :=
    match neg with
    | [] => (nonneg, other)
    | [n] =>
      if !other.isEmpty && n.isNumber && n != Expr.negOne then
        (nonneg ++ [n.negNumber], other ++ [Expr.negOne])
      else (nonneg, other ++ [n])
    | n :: rest =>
      let takeOut := other.isEmpty && n.isNumber
      let left := if takeOut then rest else neg
      let o : Expr := if takeOut then n else Expr.one
      let o := if left.length % 2 == 1 then o.negNumber else o
      (nonneg ++ left.map B.neg, if o == Expr.one then other else other ++ [o])
  match nonneg, other with
  | [], _ => none
  | [b], [] => some (.power b e)
  | _, [] => some (B.product (nonneg.map (B.power · e)))
  | _, _ => some (B.product (nonneg.map (B.power · e) ++ [B.power (B.product other) e]))

def powOfProduct (fs : List Expr) (e : Expr) : Option Expr :=
  if e.int?.isSome then some (B.product (fs.map (B.power · e)))
  else if e.isRational || e.isRounded then powOfFactors B fs e
  else none

/-- A power of the absolute value of a real expression. -/
def powOfAbs (a e : Expr) : Option Expr :=
  match e.int? with
  | some k =>
    if !a.isReal then none
    else if k % 2 == 0 then some (B.power a e)
    else if k == -1 then none
    else some (B.product [B.power a (.ofInt (k - 1)), .call .abs [a]])
  | none => none

/-- The inverse of a constant `r + s · i` with rational `r` and `s`. -/
def invertComplex (a b : Expr) : Option Expr :=
  let part : Expr → Option (Rat × Rat)
    | .rational q => some (q, 0)
    | .constant .imaginaryUnit => some (0, 1)
    | .product [.rational q, .constant .imaginaryUnit] => some (0, q)
    | _ => none
  match part a, part b with
  | some (r, s), some (r', s') =>
    let re := r + r'
    let im := s + s'
    let d := re * re + im * im
    if d == 0 then none
    else some (B.sum [.rational (re / d), B.product [.rational (-im / d), .imaginaryUnit]])
  | _, _ => none

/-- A power of a sum with a rounded coefficient: the coefficient that is largest in size leaves the
sum. -/
def powOfSum (ts : List Expr) (e : Expr) : Option Expr :=
  let parts := ts.map Expr.splitCoefficient
  let size (c : Expr) : Expr := if c.numberSign == some (-1) then c.negNumber else c
  let value (c : Expr) : Rat :=
    match c with
    | .rational q => q
    | .rounded r => r.toRat
    | _ => 0
  let larger (m c : Expr) : Expr := if value m ≤ value c then c else m
  let largest := (parts.map fun p => size p.1).foldl larger .zero
  if !(e.isRational || e.isRounded) || value (size e) == 1 then none
  else if !parts.any (fun p => p.1.isRounded) || parts.any (fun p => p.1.isInfinite) then none
  else if value largest == 1 then none
  else
    let reduce (c : Expr) : Expr :=
      if c == largest then .one
      else if c == largest.negNumber then .negOne
      else c.divNumbers largest
    let rest := B.sum (parts.map fun p => B.product [reduce p.1, p.2])
    some (B.product [B.power largest e, B.power rest e])

/-- What the base makes of the power, if anything. -/
def powOfBase (b e : Expr) : Option Expr :=
  match b with
  | .rational q => powOfRational B q e
  | .rounded r => powOfRounded B r e
  | .constant .infinity => powOfInfinite B false e
  | .constant .negInfinity => powOfInfinite B true e
  | .constant .complexInfinity => powOfComplexInfinity e
  | .constant .imaginaryUnit => powOfUnit e
  | .constant .e => some (B.apply .exp e)
  | .power c k => powOfPower B c k e
  | .call .exp [a] => powOfPower B (.constant .e) a e
  | .call .abs [a] => powOfAbs B a e
  | .product fs => powOfProduct B fs e
  | .sum ts =>
    if e.isRational && b.isNumeric then
      match ts with
      | [a, c] => if e == .negOne then invertComplex B a c else none
      | _ => none
    else powOfSum B ts e
  | _ => none

/-- A constant base compared with one in size: an infinite power of it. -/
def infinitePower (b : Expr) : Option Expr :=
  match b.estimate with
  | some v =>
    if !v.isReal then none
    else if v.value.re > 1.0 then some .infinity
    else if v.value.re > -1.0 && v.value.re < 1.0 then some .zero
    else if v.value.re < -1.0 then some .complexInfinity
    else none
  | none => none

/-- An exponent `c / log b`, whose power is a power of the base of the natural logarithm. -/
def logarithmicExponent (b e : Expr) : Option Expr :=
  match e with
  | .product fs =>
    let inverse := Expr.power (.call .log [b]) Expr.negOne
    if fs.contains inverse then some (B.product (fs.erase inverse)) else none
  | .power (.call .log [c]) k => if c == b && k == Expr.negOne then some Expr.one else none
  | _ => none

/-- The simplified power of simplified expressions. -/
def build (b e : Expr) : Expr :=
  if e.isComplexInfinity then .undefined
  else
    match if e == .infinity then infinitePower b else none with
    | some v => v
    | none =>
      if e == .zero then .one
      else if e == .one then b
      else if e == Expr.negOne && b.isZero then .complexInfinity
      else
        let negated := e.int?.isSome && b.hasMinusSign &&
          (b.isNumber || (b.isProduct && b.isNumeric))
        let even := e.int?.any (· % 2 == 0)
        if negated && !even then B.neg (B.power (B.neg b) e)
        else
          let b := if negated then B.neg b else b
          if b.isUndefined || e.isUndefined then .undefined
          else if b == .one then (if e.isInfinite then .undefined else .one)
          else
            match if b == .constant .e then none else logarithmicExponent B b e with
            | some c => B.power (.constant .e) c
            | none => (powOfBase B b e).getD (.power b e)

end DirectionField.Algebra.Power
