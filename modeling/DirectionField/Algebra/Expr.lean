import DirectionField.Algebra.Rounded
import DirectionField.Symbol
/-!
# Algebraic expressions

Expressions in simplified form: numbers, named constants, symbols, sums and products of any
number of parts, powers and applications of functions. The parts of a sum or product are kept in
one order, so that equal expressions are equal as data.
-/

namespace DirectionField.Algebra

inductive Constant where
  | pi | e | imaginaryUnit | infinity | negInfinity | undefined | complexInfinity
  deriving DecidableEq, Repr, Inhabited

/-- The functions that an equation may use, and those that simplification brings in. -/
inductive Fn where
  | sin | cos | tan | asin | acos | atan | sinh | cosh | tanh | asinh | atanh
  | exp | log | abs | floor | modulo | maximum | minimum | factorial | doubleFactorial
  deriving DecidableEq, Repr, Inhabited

inductive Expr where
  | rational (q : Rat)
  | rounded (r : Rounded)
  | constant (c : Constant)
  | symbol (s : Symbol)
  | sum (terms : List Expr)
  | product (factors : List Expr)
  | power (base exponent : Expr)
  | call (f : Fn) (args : List Expr)
  /-- The application of a function that has no definition. -/
  | unknown (name : String) (args : List Expr)
  /-- A function given by an expression in bound symbols. -/
  | abstraction (bound : List Symbol) (body : Expr)
  deriving Repr, Inhabited

namespace Expr

/-- Whether two expressions are equal as data. -/
protected def beq : Expr → Expr → Bool
  | .rational p, .rational q => p == q
  | .rounded r, .rounded s => r == s
  | .constant c, .constant d => c == d
  | .symbol s, .symbol t => s == t
  | .sum ts, .sum us => beqAll ts us
  | .product fs, .product gs => beqAll fs gs
  | .power b n, .power c m => Expr.beq b c && Expr.beq n m
  | .call f as, .call g bs => f == g && beqAll as bs
  | .unknown s as, .unknown t bs => s == t && beqAll as bs
  | .abstraction ss b, .abstraction ts c => ss == ts && Expr.beq b c
  | _, _ => false
where
  beqAll : List Expr → List Expr → Bool
    | [], [] => true
    | a :: as, b :: bs => Expr.beq a b && beqAll as bs
    | _, _ => false

instance : BEq Expr := ⟨Expr.beq⟩

def ofInt (n : Int) : Expr := .rational n

def zero : Expr := .rational 0
def one : Expr := .rational 1
def negOne : Expr := .rational (-1)
def half : Expr := .rational (mkRat 1 2)
def pi : Expr := .constant .pi
def imaginaryUnit : Expr := .constant .imaginaryUnit
def infinity : Expr := .constant .infinity
def negInfinity : Expr := .constant .negInfinity
def undefined : Expr := .constant .undefined
def complexInfinity : Expr := .constant .complexInfinity

/-- Whether the expression is a single number, the two real infinities and the undefined value
included, complex infinity not. -/
def isNumber : Expr → Bool
  | .rational _ | .rounded _ => true
  | .constant .infinity | .constant .negInfinity | .constant .undefined => true
  | _ => false

def isRational : Expr → Bool
  | .rational _ => true
  | _ => false

def isRounded : Expr → Bool
  | .rounded _ => true
  | _ => false

def isZero : Expr → Bool
  | .rational q => q == 0
  | .rounded r => r.isZero
  | _ => false

def isSum : Expr → Bool
  | .sum _ => true
  | _ => false

def isProduct : Expr → Bool
  | .product _ => true
  | _ => false

def isPower : Expr → Bool
  | .power .. => true
  | _ => false

def isSymbol : Expr → Bool
  | .symbol _ => true
  | _ => false

def isCall (f : Fn) : Expr → Bool
  | .call g _ => f == g
  | _ => false

def rational? : Expr → Option Rat
  | .rational q => some q
  | _ => none

/-- The whole number that the expression is. -/
def int? : Expr → Option Int
  | .rational q => if q.den == 1 then some q.num else none
  | _ => none

/-- The terms of a sum; any other expression is one term. -/
def terms : Expr → List Expr
  | .sum ts => ts
  | e => [e]

/-- The factors of a product; any other expression is one factor. -/
def factors : Expr → List Expr
  | .product fs => fs
  | e => [e]

/-- Whether the predicate holds of the expression or of a part of it. -/
def has (p : Expr → Bool) (e : Expr) : Bool :=
  p e || match e with
    | .sum ts => anyHas p ts
    | .product fs => anyHas p fs
    | .power b n => has p b || has p n
    | .call _ args => anyHas p args
    | .unknown _ args => anyHas p args
    | .abstraction _ body => has p body
    | _ => false
where
  anyHas (p : Expr → Bool) : List Expr → Bool
    | [] => false
    | e :: r => has p e || anyHas p r

/-- The free symbols, each as often as it occurs. -/
def symbols : Expr → List Symbol
  | .symbol s => [s]
  | .sum ts => allSymbols ts
  | .product fs => allSymbols fs
  | .power b n => symbols b ++ symbols n
  | .call _ args => allSymbols args
  | .unknown _ args => allSymbols args
  | .abstraction bound body => (symbols body).filter fun s => !bound.contains s
  | _ => []
where
  allSymbols : List Expr → List Symbol
    | [] => []
    | e :: r => symbols e ++ allSymbols r

/-- The applications of functions without a definition, each as often as it occurs. -/
def unknowns : Expr → List Expr
  | .sum ts => allUnknowns ts
  | .product fs => allUnknowns fs
  | .power b n => unknowns b ++ unknowns n
  | .call _ args => allUnknowns args
  | .unknown s args => .unknown s args :: allUnknowns args
  | .abstraction _ body => unknowns body
  | _ => []
where
  allUnknowns : List Expr → List Expr
    | [] => []
    | e :: r => unknowns e ++ allUnknowns r

/-- Whether the expression has neither symbols nor functions without a definition. -/
def isNumeric (e : Expr) : Bool :=
  !e.has fun
    | .symbol _ | .unknown .. | .abstraction .. => true
    | _ => false

/-- The number in front of a product and the rest; a number alone is its own coefficient. -/
def splitCoefficient : Expr → Expr × Expr
  | .product (c :: rest) =>
    if c.isNumber then
      match rest with
      | [] => (c, one)
      | [e] => (c, e)
      | _ => (c, .product rest)
    else (one, .product (c :: rest))
  | e => if e.isNumber then (e, one) else (one, e)

/-- The coefficient when it is rational, and the rest. -/
def splitRational (e : Expr) : Rat × Expr :=
  match e.splitCoefficient with
  | (.rational q, r) => (q, r)
  | _ => (1, e)

/-! ## Order -/

/-- What an expression is ordered by: its kind, its arguments, its exponent and its coefficient,
in this order. -/
inductive Key where
  | node (kind : Nat × Nat) (name : String) (args exponent : List Key) (coefficient : Rat)
  deriving Inhabited

namespace Key

def number (q : Rat) : Key := .node (1, 0) "" [] [] q

def coefficient : Key → Rat
  | .node _ _ _ _ c => c

def withCoefficient (c : Rat) : Key → Key
  | .node k n a e _ => .node k n a e c

def withExponent (e : Key) : Key → Key
  | .node k n a _ c =>
    if c == 1 then .node k n a [e] 1
    else .node (3, 0) "" [number c, .node k n a [number 1] 1] [e] 1

def compareRat (a b : Rat) : Ordering := if a < b then .lt else if b < a then .gt else .eq

def compare : Key → Key → Ordering
  | .node k n a e c, .node k' n' a' e' c' =>
    (Ord.compare k.1 k'.1).then <| (Ord.compare k.2 k'.2).then <| (Ord.compare n n').then <|
      (Ord.compare a.length a'.length).then <| (compareAll a a').then <|
        (compareAll e e').then (compareRat c c')
where
  compareAll : List Key → List Key → Ordering
    | [], [] => .eq
    | [], _ => .lt
    | _, [] => .gt
    | k :: r, k' :: r' => (compare k k').then (compareAll r r')

def le (a b : Key) : Bool := compare a b != .gt

end Key

/-- The kind of a function in the order of expressions. -/
def fnKind : Fn → Nat × String
  | .exp => (10, "exp") | .log => (11, "log")
  | .sin => (20, "sin") | .cos => (21, "cos") | .tan => (22, "tan")
  | .sinh => (30, "sinh") | .cosh => (31, "cosh") | .tanh => (32, "tanh")
  | .abs => (10000, "Abs") | .acos => (10000, "acos") | .asin => (10000, "asin")
  | .asinh => (10000, "asinh") | .atan => (10000, "atan") | .atanh => (10000, "atanh")
  | .factorial => (10000, "factorial") | .doubleFactorial => (10000, "factorial2")
  | .floor => (10000, "floor") | .modulo => (10000, "Mod")
  | .maximum => (0, "Max") | .minimum => (0, "Min")

def constantName : Constant → String
  | .pi => "pi" | .e => "E" | .imaginaryUnit => "I" | .infinity => "oo"
  | .negInfinity => "-oo" | .undefined => "nan" | .complexInfinity => "zoo"

def key : Expr → Key
  | .rational q => .number q
  | .rounded r => .number r.toRat
  | .constant c => .node (2, 0) (constantName c) [] [.number 1] 1
  -- of two symbols with one name the real one comes first
  | .symbol s => .node (2, 1) s.name (if s.isReal then [] else [.number 0]) [.number 1] 1
  | .sum ts => .node (3, 1) "" ((keys ts).mergeSort Key.le) [.number 1] 1
  | .product fs =>
    let ks := keys fs
    let front := fs.head?.any isNumber
    let c := if front then (ks.head?.map Key.coefficient).getD 1 else 1
    match if front then ks.tail else ks with
    | [k] => k.withCoefficient c
    | ks => .node (3, 0) "" (ks.mergeSort Key.le) [.number 1] c
  | .power b n => (key b).withExponent (key n)
  | .call f args => .node (4, (fnKind f).1) (fnKind f).2 (keys args) [.number 1] 1
  | .unknown s args => .node (4, 0) s (keys args) [.number 1] 1
  | .abstraction bound body => .node (5, 0) (",".intercalate (bound.map Symbol.name)) [key body] [.number 1] 1
where
  keys : List Expr → List Key
    | [] => []
    | e :: r => key e :: keys r

/-- The expressions in order. -/
def sorted (es : List Expr) : List Expr :=
  match es with
  | [] | [_] => es
  | _ => ((es.map fun e => (e.key, e)).mergeSort fun a b => Key.le a.1 b.1).map (·.2)

end Expr

end DirectionField.Algebra
