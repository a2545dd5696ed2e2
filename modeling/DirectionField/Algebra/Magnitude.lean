import DirectionField.Algebra.Builders
/-!
# Absolute values

Factors with a known absolute value leave it; powers of reals and expressions of known sign are
resolved; a constant divided by an expression keeps the absolute value of the divisor.
-/

namespace DirectionField.Algebra.Magnitude

variable (B : Builders)

/-- Splits a product into its numerator and its denominator. -/
def fraction (fs : List Expr) : List Expr × List Expr :=
  let denominators := fs.filterMap fun f =>
    match f with
    | .power b (.rational k) => if k < 0 then some (B.power b (.rational (-k))) else none
    | .rational q => if q.den == 1 then none else some (.ofInt q.den)
    | _ => none
  let numerators := fs.filterMap fun f =>
    match f with
    | .power _ (.rational k) => if k < 0 then none else some f
    | .rational q => if q.den == 1 then some f else some (.ofInt q.num)
    | _ => some f
  (numerators, denominators)

/-- The absolute value of a factor and whether it is resolved. -/
def factor (f : Expr) : Bool × Expr :=
  match f with
  | .power b (.rational k) =>
    if k.den == 1 && k < 0 then
      match B.apply .abs b with
      | .call .abs _ => (false, f)
      | c => (true, B.power c (.rational k))
    else whole f
  | _ => whole f
where
  whole (f : Expr) : Bool × Expr :=
    match B.apply .abs f with
    | .call .abs _ => (false, f)
    | c => (true, c)

def ofProduct (fs : List Expr) : Expr :=
  let parts := fs.map (factor B)
  let known := (parts.filter (·.1)).map (·.2)
  let unknown := (parts.filter fun p => !p.1).map (·.2)
  if unknown.isEmpty then B.product known
  else B.product (known ++ [.call .abs [B.product unknown]])

/-- The absolute value of a power. -/
def ofPower (b e : Expr) : Option Expr :=
  let f := b.facts
  if !f.isReal then none
  else
    match e.int? with
    | some k =>
      if k % 2 == 0 then some (B.power b e)
      else if b == .negOne then some .one
      else some (B.power (B.apply .abs b) e)
    | none =>
      if !e.isReal then none
      else if f.isNonnegative then some (B.power b e)
      else if f.isNegative then some (B.power (B.neg b) e)
      else none

/-- The absolute value of `a + b · i` with real `a` and `b`. -/
def ofComplexSum (ts : List Expr) : Option Expr :=
  let imaginary := ts.filterMap fun t => if t.isReal then none else B.imaginaryCoefficient t
  let real := ts.filter Expr.isReal
  if imaginary.isEmpty || imaginary.length + real.length != ts.length ||
    !imaginary.all Expr.isReal then none
  else
    let two := Expr.ofInt 2
    some (B.sqrt (B.sum [B.power (B.sum real) two, B.power (B.sum imaginary) two]))

def abs (e : Expr) : Expr :=
  let f := e.facts
  let known : Option Expr :=
    match e with
    | .rational q => some (.rational (if q < 0 then -q else q))
    | .rounded r => some (.rounded r.abs)
    | .constant .undefined => some .undefined
    | .constant .complexInfinity | .constant .infinity | .constant .negInfinity => some .infinity
    | .constant .imaginaryUnit => some .one
    | .product fs =>
      let (num, den) := fraction B fs
      let n := B.product num
      let d := B.product den
      if !d.symbols.isEmpty && n.symbols.isEmpty then some (B.div (B.apply .abs n) (B.apply .abs d))
      else some (ofProduct B fs)
    | .power b (.rational k) =>
      if k < 0 && !b.symbols.isEmpty then
        match B.apply .abs (B.power b (.rational (-k))) with
        | .call .abs _ => if b.isReal && k.den == 1 then ofPower B b (.rational k) else none
        | c => some (B.inv c)
      else ofPower B b (.rational k)
    | .power b n => ofPower B b n
    | .call .exp [a] => if a.isReal then some e else none
    | .sum ts => if f.isReal then none else ofComplexSum B ts
    | _ => none
  match known with
  | some v => v
  | none =>
    if f.isZero then .zero
    else if f.isNonnegative then e
    else if f.isNonpositive then B.neg e
    else .call .abs [e]

end DirectionField.Algebra.Magnitude
