import DirectionField.Algebra.Estimate
import DirectionField.Numeric.Program
/-!
# Computing an expression

An expression becomes a numeric program. The order of the operations is fixed here, as the last
digits of a slope hang on it: a sum is added up from the highest monomial to the lowest, a product
is multiplied from left to right and then divided by the product of the factors with a negative
exponent.
-/

namespace DirectionField.Algebra.Expr

open DirectionField.Numeric (Number Elementary Program)

/-! ## The order of the terms of a sum -/

/-- A factor as a base with a whole exponent. -/
def wholePower (e : Expr) : Expr × Int :=
  let split (b n : Expr) : Expr × Int :=
    match n with
    | .rational q =>
      (if q.den == 1 then b else .power b (.rational (mkRat 1 q.den)), q.num)
    | .rounded _ | .constant _ => (e, 1)
    | _ =>
      let (q, tail) := n.splitRational
      let root (k : Rat) : Expr :=
        let n := withCoefficient (.rational k) tail
        if b == .constant .e then .call .exp [n] else .power b n
      if q == 1 then (e, 1) else if q == -1 then (root 1, -1) else (root (mkRat 1 q.den), q.num)
  match e with
  | .power b n => split b n
  | .call .exp [n] => split (.constant .e) n
  | _ => (e, 1)

/-- A term with its numeric part and its powers of the bases that are no numbers. -/
structure Monomial where
  re : Float
  im : Float
  powers : List (Expr × Int)

def monomial (e : Expr) : Monomial :=
  let numeric (f : Expr) : Numeric.Complex := (f.estimate.map (·.value)).getD (.ofReal (0.0 / 0.0))
  let (numbers, rest) := e.factors.partition isNumeric
  let c := (numbers.map numeric).foldl Numeric.Complex.mul (.ofReal 1.0)
  ⟨c.re, c.im, rest.map wholePower⟩

/-- The distinct bases of the terms, in order. -/
def monomialBases (ms : List Monomial) : List Expr :=
  sorted (ms.flatMap fun m => m.powers.map (·.1)).eraseDups

/-- Whether the first monomial comes before or together with the second: larger exponents first, a
smaller numeric part first. -/
def Monomial.precedes (bases : List Expr) (a b : Monomial) : Bool :=
  go bases
where
  go : List Expr → Bool
    | [] =>
      let real (m : Monomial) : Bool := m.im == 0.0
      if real a != real b then real a
      else if a.im < b.im then true
      else if b.im < a.im then false
      else !(b.re < a.re)
    | g :: rest =>
      let m := (a.powers.lookup g).getD 0
      let n := (b.powers.lookup g).getD 0
      if n < m then true else if m < n then false else go rest

/-- Values that go with the terms of a sum, in the order in which the sum is added up. -/
def inSummationOrder {β : Type} (ts : List (Expr × β)) : List β :=
  match ts with
  | [] | [_] | [_, _] => ts.map (·.2)
  | _ =>
    let ms := ts.map fun t => (t.1.monomial, t.2)
    let bases := monomialBases (ms.map (·.1))
    (ms.mergeSort fun a b => Monomial.precedes bases a.1 b.1).map (·.2)

/-! ## Programs -/

def whole (n : Int) : Program := .constant (.whole n)

def ofReal (x : Float) : Program := .constant (.real x false)

/-- A rational number: a whole one as it is, any other by a division. -/
def rationalProgram (q : Rat) : Program :=
  if q.den == 1 then whole q.num else .div (whole q.num) (whole q.den)

def constantProgram : Constant → Program
  | .pi => ofReal 3.141592653589793
  | .e => ofReal 2.718281828459045
  | .imaginaryUnit => .constant (.complex .unit false)
  | .infinity => ofReal (1.0 / 0.0)
  | .negInfinity => ofReal (-1.0 / 0.0)
  | .undefined => ofReal (0.0 / 0.0)
  | .complexInfinity => .refused

/-- A power, given its exponent both as an expression and as a program: square roots by their
function, a negative whole exponent as a real number. -/
def powerProgram (b : Program) (n : Expr) (np : Program) : Program :=
  match n with
  | .rational q =>
    if q == mkRat 1 2 then .call .sqrt b
    else if q == mkRat (-1) 2 then .div (whole 1) (.call .sqrt b)
    else if q.den == 1 && q.num < 0 then
      .pow b (ofReal (Float.ofInt q.num))
    else .pow b np
  | _ => .pow b np

/-- The power that a factor with a negative rational exponent divides by. -/
def divisorProgram (b : Program) (q : Rat) : Program :=
  if q == -1 then b else powerProgram b (.rational (-q)) (rationalProgram (-q))

def elementary : Fn → Option Elementary
  | .sin => some .sin | .cos => some .cos | .tan => some .tan
  | .asin => some .asin | .acos => some .acos | .atan => some .atan
  | .sinh => some .sinh | .cosh => some .cosh | .tanh => some .tanh
  | .asinh => some .asinh | .atanh => some .atanh
  | .exp => some .exp | .log => some .log | .abs => some .abs | .floor => some .floor
  | .doubleFactorial => some .doubleFactorial
  | _ => none

def callProgram (f : Fn) (args : List Program) : Program :=
  match f, args with
  | .modulo, [a, b] => .remainder a b
  | .maximum, args => .extremum true args
  | .minimum, args => .extremum false args
  | f, [a] =>
    match elementary f with
    | some g => .call g a
    | none => .refused
  | _, _ => .refused

/-- The product of programs, from left to right. -/
def productOf : List Program → Option Program
  | [] => none
  | p :: rest => some (rest.foldl .mul p)

/-- A factor of a product, over or under the line. -/
structure Part where
  under : Bool
  program : Program

/-- A product with a sign, divided by the parts under the line. -/
def quotientProgram (negative : Bool) (parts : List Part) : Program :=
  let upper := (parts.filter fun p => !p.under).map (·.program)
  let lower := (parts.filter fun p => p.under).map (·.program)
  let upper :=
    match upper with
    | [] => [whole 1]
    | _ => upper
  let upper :=
    match upper with
    | p :: rest => if negative then .neg p :: rest else upper
    | [] => []
  match productOf upper, productOf lower with
  | some n, some d => .div n d
  | some n, none => n
  | none, _ => .refused

def sumProgram : List Program → Program
  | [] => whole 0
  | p :: rest => rest.foldl .add p

/-- Whether the expression is a negative number. -/
def isNegativeNumber (e : Expr) : Bool := e.numberSign == some (-1)

/-- The program that computes the expression. -/
def program : Expr → Program
  | .rational q => rationalProgram q
  | .rounded r => ofReal r.toFloat
  | .constant c => constantProgram c
  | .symbol s => if s = .x then .x else if s = .y then .y else .refused
  | .sum ts => sumProgram (inSummationOrder (ts.zip (programs ts)))
  | .product fs => quotientProgram (fs.head?.any isNegativeNumber) (parts fs)
  | .power b n => powerProgram (program b) n (program n)
  | .call f args => callProgram f (programs args)
  | .unknown .. => .refused
  | .abstraction .. => .refused
where
  programs : List Expr → List Program
    | [] => []
    | e :: r => program e :: programs r
  /-- The factors of a product; a negative number in front stands for its size, and one that is -1
  for nothing but the sign. -/
  parts : List Expr → List Part
    | [] => []
    | .power b (.rational q) :: r =>
      (if q < 0 then ⟨true, divisorProgram (program b) q⟩
      else ⟨false, powerProgram (program b) (.rational q) (rationalProgram q)⟩) :: parts r
    | .rational q :: r =>
      if q == -1 then parts r
      else ⟨false, rationalProgram (if q < 0 then -q else q)⟩ :: parts r
    | .rounded a :: r => ⟨false, ofReal a.abs.toFloat⟩ :: parts r
    | .constant .negInfinity :: r => ⟨false, constantProgram .infinity⟩ :: parts r
    | e :: r => ⟨false, program e⟩ :: parts r

end DirectionField.Algebra.Expr
