import DirectionField.Algebra.Facts
/-!
# Building expressions

The operations that put simplified expressions together. Each rule of simplification takes them as
an argument for the expressions that it builds in turn, so that the rules can be stated one by one;
`Algebra.Simplify` ties them together.
-/

namespace DirectionField.Algebra

structure Builders where
  sum : List Expr → Expr
  product : List Expr → Expr
  power : Expr → Expr → Expr
  call : Fn → List Expr → Expr

namespace Builders

/-- Puts the parts together as they are. -/
def plain : Builders where
  sum ts := match ts with
    | [] => .zero
    | [t] => t
    | _ => .sum ts
  product fs := match fs with
    | [] => .one
    | [f] => f
    | _ => .product fs
  power b e := .power b e
  call f args := .call f args

variable (B : Builders)

def add (a b : Expr) : Expr := B.sum [a, b]

def mul (a b : Expr) : Expr := B.product [a, b]

def neg (a : Expr) : Expr := if a.isNumber then a.negNumber else B.product [.negOne, a]

def sub (a b : Expr) : Expr := B.sum [a, B.neg b]

def inv (a : Expr) : Expr := B.power a .negOne

def div (a b : Expr) : Expr := if a == .one then B.inv b else B.product [a, B.inv b]

def sqrt (a : Expr) : Expr := B.power a .half

def apply (f : Fn) (a : Expr) : Expr := B.call f [a]

/-- The multiplier of the imaginary unit in an expression that is such a multiple as a whole. -/
def imaginaryCoefficient (e : Expr) : Option Expr :=
  match e with
  | .constant .imaginaryUnit => some .one
  | .product fs => ofProduct fs
  | .sum ts => (ts.mapM ofTerm).map B.sum
  | _ => none
where
  ofProduct (fs : List Expr) : Option Expr :=
    if fs.contains .imaginaryUnit then some (B.product (fs.erase .imaginaryUnit)) else none
  ofTerm (e : Expr) : Option Expr :=
    match e with
    | .constant .imaginaryUnit => some .one
    | .product fs => ofProduct fs
    | _ => none

/-- A complex double as an expression with rounded parts. -/
def ofComplex (z : Numeric.Complex) (p : Nat) : Option Expr :=
  if z.im == 0.0 then (Rounded.ofFloat z.re p).map Expr.ofRounded
  else do
    let re ← Rounded.ofFloat z.re p
    let im ← Rounded.ofFloat z.im p
    let turned := B.product [.rounded im, .imaginaryUnit]
    return if re.isZero then turned else B.sum [.rounded re, turned]

end Builders

end DirectionField.Algebra
