import DirectionField.Algebra.Builders
/-!
# Products

A product is flattened, its numbers are multiplied and powers of equal bases are collected. Roots
of integers are collected by exponent, and the imaginary unit counts as a root of minus one. A
finite number times a sum is distributed over the sum.
-/

namespace DirectionField.Algebra.Product

/-- The parts of a product under construction. -/
structure Parts where
  /-- The number, which may be complex infinity. -/
  number : Expr
  /-- The exponent of minus one. -/
  turn : Rat
  /-- Positive integers with fractional exponents. -/
  roots : List (Rat × Rat)
  /-- Numbers with other exponents. -/
  exponentials : List (Expr × Expr)
  /-- All other bases with their exponents. -/
  powers : List (Expr × Expr)

def addRoot (b e : Rat) : List (Rat × Rat) → List (Rat × Rat)
  | [] => [(b, e)]
  | (c, f) :: r => if c == b then (c, f + e) :: r else (c, f) :: addRoot b e r

/-- The base and the exponent of an expression; the inverse of an integer is a power of it. -/
def baseExponent (B : Builders) : Expr → Expr × Expr
  | .power (.rational q) e =>
    if q.num == 1 && q.den != 1 then (.rational q.den, B.neg e) else (.rational q, e)
  | .power b e => (b, e)
  | .call .exp [a] => (.constant .e, a)
  | e => (e, .one)

def multiply (p : Parts) (n : Expr) : Option Parts :=
  if n.isUndefined then none
  else if p.number.isComplexInfinity then (if n.isZero then none else some p)
  else
    let m := Expr.mulNumbers p.number n
    if m.isUndefined then none else some { p with number := m }

/-- Takes one more factor in; `none` when the product is undefined. -/
def insert (B : Builders) (p : Parts) (e : Expr) : Option Parts :=
  if e.isNumber then multiply p e
  else if e.isComplexInfinity then
    if p.number.isZero then none else some { p with number := .complexInfinity }
  else if e == .imaginaryUnit then some { p with turn := p.turn + mkRat 1 2 }
  else
    let (b, n) := baseExponent B e
    match e.isPower, b, n with
    | true, .rational q, .rational k =>
      let turn := if q < 0 then p.turn + k else p.turn
      let q := if q < 0 then -q else q
      some { p with turn := turn, roots := if q == 1 then p.roots else addRoot q k p.roots }
    | true, _, _ =>
      if b.isNumber && (b.numberSign == some 1 || n.facts.integer) then
        some { p with exponentials := p.exponentials ++ [(b, n)] }
      else some { p with powers := p.powers ++ [(b, n)] }
    | false, _, _ => some { p with powers := p.powers ++ [(b, n)] }

/-- Adds the coefficients of equal exponents of equal bases. -/
def gather (B : Builders) (ps : List (Expr × Expr)) : List (Expr × Expr) :=
  let step (acc : List (Expr × Expr × List Expr)) (p : Expr × Expr) :=
    let (c, t) := p.2.splitCoefficient
    add p.1 t c acc
  (ps.foldl step []).map fun g =>
    let c := B.sum g.2.2
    (g.1, if g.2.1 == .one then c else if c == .one then g.2.1 else B.product [c, g.2.1])
where
  add (b t c : Expr) : List (Expr × Expr × List Expr) → List (Expr × Expr × List Expr)
    | [] => [(b, t, [c])]
    | (b', t', cs) :: r =>
      if b == b' && t == t' then (b', t', cs ++ [c]) :: r else (b', t', cs) :: add b t c r

/-- Whether a base vanishes from the product as undefined when its exponent is zero. -/
def hasInfinitePart (b : Expr) : Bool :=
  (b.isSum || b.isProduct) &&
    (b.terms ++ b.factors).any fun e => e.isInfinite || e.isComplexInfinity

/-- The powers as expressions, collected once more when raising a base has changed it into one
that occurs already. `none` when an infinity cancels. -/
def raise (B : Builders) (rounds : Nat) (ps : List (Expr × Expr)) : Option (List Expr) :=
  let ps := gather B ps
  if ps.any fun p => p.2.isZero && hasInfinitePart p.1 then none
  else
    let raised := (ps.filter fun p => !p.2.isZero).map fun p =>
      let q := if p.2 == .one then p.1 else B.power p.1 p.2
      (q, if q.isPower && !p.1.isPower then baseExponent B q else p)
    let bases := raised.map fun r => r.2.1
    let changed := bases != (ps.filter fun p => !p.2.isZero).map (·.1)
    match rounds with
    | 0 => some (raised.map (·.1))
    | n + 1 =>
      if changed && bases.eraseDups.length != bases.length then
        raise B n (raised.map (·.2))
      else some (raised.map (·.1))

/-- Roots with equal exponents are put under one root, whole parts of exponents taken out. -/
def rootFactors (B : Builders) (roots : List (Rat × Rat)) : List Expr :=
  let exponents := (roots.map (·.2)).eraseDups
  exponents.flatMap fun e =>
    let b := ((roots.filter fun r => r.2 == e).map (·.1)).foldl (· * ·) 1
    let whole := e.floor
    if e.den == 1 then [B.power (.rational b) (.rational e)]
    else if whole ≤ 0 then [B.power (.rational b) (.rational e)]
    else [B.power (.rational b) (.ofInt whole), B.power (.rational b) (.rational (e - whole))]

/-- Whether two roots of integers among the factors have to be collected anew. -/
def rootsInteract : List Expr → Bool
  | [] => false
  | .power (.rational b) (.rational k) :: r =>
    (r.any fun
      | .power (.rational c) (.rational l) =>
        b == c || (k == l && 0 < b && 0 < c && Nat.gcd b.num.natAbs c.num.natAbs != 1)
      | _ => false) || rootsInteract r
  | _ :: r => rootsInteract r

/-- Puts roots of equal exponents among finished factors under one root. -/
def mergeRoots (fs : List Expr) : List Expr :=
  let step (acc : List Expr) (e : Expr) : List Expr :=
    match e with
    | .power (.rational b) (.rational k) => put b k acc
    | _ => acc ++ [e]
  fs.foldl step []
where
  put (b k : Rat) : List Expr → List Expr
    | [] => [.power (.rational b) (.rational k)]
    | .power (.rational c) (.rational l) :: r =>
      if k == l && 0 < b && 0 < c then .power (.rational (b * c)) (.rational k) :: r
      else .power (.rational c) (.rational l) :: put b k r
    | e :: r => e :: put b k r

/-- The factors that a power of minus one contributes, and whether it changes the sign. -/
def turnFactors (turn : Rat) (fs : List Expr) : Bool × List Expr :=
  let whole := turn.floor
  let rest := turn - whole
  let odd := whole % 2 != 0
  if rest == 0 then (odd, fs)
  else if rest == mkRat 1 2 then (odd, fs ++ [.imaginaryUnit])
  else (odd, join rest fs)
where
  /-- A root of a positive integer with the same exponent takes the minus one in. -/
  join (k : Rat) : List Expr → List Expr
    | [] => [.power .negOne (.rational k)]
    | .power (.rational b) (.rational l) :: r =>
      if k == l && 0 < b then .power (.rational (-b)) (.rational k) :: r
      else .power (.rational b) (.rational l) :: join k r
    | e :: r => e :: join k r

/-- The factors that remain beside an infinite number, which takes their signs up, and beside
complex infinity, which takes up what is known not to be zero. -/
def survivors (number : Expr) (fs : List Expr) : Expr × List Expr :=
  if number.isInfinite then
    let negative := (fs.filter fun f => f.facts.isNegative).length
    (if negative % 2 == 1 then number.negNumber else number,
      fs.filter fun f => let g := f.facts; !(g.isPositive || g.isNegative))
  else if number.isComplexInfinity then
    (number, fs.filter fun f => let g := f.facts; !(g.isNonzero && g.real.isSome))
  else (number, fs)

/-- The finished product of a number and factors that are no numbers. -/
def finish (B : Builders) (number : Expr) (fs : List Expr) : Expr :=
  match number, Expr.sorted fs with
  | n, [] => n
  | n, [f] =>
    if n == .one then f
    else
      match f with
      | .sum ts =>
        if n.isNumber && !n.isInfinite then B.sum (ts.map (Expr.withCoefficient n))
        else .product [n, f]
      | _ => .product [n, f]
  | n, fs => if n == .one then .product fs else .product (n :: fs)

/-- The simplified product of simplified expressions. -/
def build (B : Builders) (es : List Expr) : Expr :=
  match (es.flatMap Expr.factors).foldlM (insert B) (⟨.one, 0, [], [], []⟩ : Parts) with
  | none => .undefined
  | some p =>
    match raise B 1 p.powers with
    | none => .undefined
    | some powers =>
      let exponentials := gather B p.exponentials
      let exponents := (exponentials.map (·.2)).eraseDups
      let exponentials := (exponents.filter fun e => !e.isZero).map fun e =>
        B.power (B.product ((exponentials.filter fun q => q.2 == e).map (·.1))) e
      let made := powers ++ exponentials ++ rootFactors B p.roots
      let made := made.flatMap Expr.factors
      let again := (made.any fun f => f == .imaginaryUnit || f.isComplexInfinity) ||
        rootsInteract made
      let numbers := made.filter Expr.isNumber
      let others := made.filter fun f => !f.isNumber
      match numbers.foldlM multiply p with
      | none => .undefined
      | some p =>
        let (odd, others) := turnFactors p.turn (if again then others else mergeRoots others)
        let number := if odd then p.number.negNumber else p.number
        if again then B.product (number :: others)
        else
          let (number, others) := survivors number others
          if number.isZero then
            if others.any fun f => f.facts.finite == some false then .undefined else number
          else finish B number others

end DirectionField.Algebra.Product
