import DirectionField.Algebra.Expr
/-!
# Sums and products of numbers

Exact for rationals, rounded when one of the numbers is rounded, and with the usual rules for the
two real infinities and the undefined value.
-/

namespace DirectionField.Algebra.Expr

/-- The sign of a number: -1, 0 or 1; the undefined value has none. -/
def numberSign : Expr → Option Int
  | .rational q => some (if q < 0 then -1 else if q == 0 then 0 else 1)
  | .rounded r => some r.mantissa.sign
  | .constant .infinity => some 1
  | .constant .negInfinity => some (-1)
  | _ => none

def isInfinite : Expr → Bool
  | .constant .infinity | .constant .negInfinity => true
  | _ => false

def isUndefined : Expr → Bool
  | .constant .undefined => true
  | _ => false

def isComplexInfinity : Expr → Bool
  | .constant .complexInfinity => true
  | _ => false

/-- A rational or rounded number at the given precision. -/
def roundedAt (p : Nat) : Expr → Option Rounded
  | .rational q => some (.ofRat q p)
  | .rounded r => some r
  | _ => none

/-- The outcome of a rounded calculation; an outcome of zero is exact. -/
def ofRounded (r : Rounded) : Expr := if r.isZero then zero else .rounded r

/-- The larger precision of two numbers; nothing when both are exact. -/
def commonPrecision : Expr → Expr → Option Nat
  | .rounded a, .rounded b => some (max a.precision b.precision)
  | .rounded a, _ => some a.precision
  | _, .rounded b => some b.precision
  | _, _ => none

/-- The sum of two numbers. -/
def addNumbers (a b : Expr) : Expr :=
  match a, b with
  | .rational p, .rational q => .rational (p + q)
  | _, _ =>
    if a.isUndefined || b.isUndefined then undefined
    else if a.isInfinite then
      if b.isInfinite && a != b then undefined else a
    else if b.isInfinite then b
    else
      match commonPrecision a b with
      | some p =>
        match a.roundedAt p, b.roundedAt p with
        | some r, some s => ofRounded (r.add s)
        | _, _ => undefined
      | none => undefined

/-- The product of two numbers. -/
def mulNumbers (a b : Expr) : Expr :=
  match a, b with
  | .rational p, .rational q => .rational (p * q)
  | _, _ =>
    if a.isUndefined || b.isUndefined then undefined
    else if a.isInfinite || b.isInfinite then
      match a.numberSign, b.numberSign with
      | some s, some t =>
        if s * t == 0 then undefined else if s * t < 0 then negInfinity else infinity
      | _, _ => undefined
    else
      match commonPrecision a b with
      | some p =>
        match a.roundedAt p, b.roundedAt p with
        | some r, some s => ofRounded (r.mul s)
        | _, _ => undefined
      | none => undefined

/-- The quotient of finite numbers, the divisor not zero. A rational over a rounded number is a
product with the inverse, rounded twice. -/
def divNumbers (a b : Expr) : Expr :=
  match a, b with
  | .rational p, .rational q => .rational (p / q)
  | .rational _, .rounded s => mulNumbers a (.rounded s.inv)
  | .rounded r, .rational q => ofRounded (r.div (.ofRat q r.precision))
  | .rounded r, .rounded s => ofRounded (r.div s)
  | _, _ => undefined

/-- The number with its sign changed. -/
def negNumber : Expr → Expr
  | .rational q => .rational (-q)
  | .rounded r => .rounded r.neg
  | .constant .infinity => negInfinity
  | .constant .negInfinity => infinity
  | e => e

/-- A number in front of an expression that is no sum. -/
def withCoefficient (c e : Expr) : Expr :=
  if e.isNumber then mulNumbers c e
  else if c == one then e
  else
    match e with
    | .product (f :: rest) =>
      if f.isNumber then
        let d := mulNumbers c f
        if d == one then
          match rest with
          | [g] => g
          | _ => .product rest
        else .product (d :: rest)
      else .product (c :: f :: rest)
    | _ => .product [c, e]

/-- Whether the expression has a minus sign in front: a negative number, a product with a negative
coefficient, or a sum with more terms that have one than terms that have none. When the terms of a
sum are balanced, the sum that comes first in the order of expressions counts as negative. -/
def hasMinusSign : Expr → Bool
  | .sum ts =>
    let negative := count ts
    let positive := ts.length - negative
    if positive > negative then false
    else if positive < negative then true
    else
      let negated := ts.map (withCoefficient negOne)
      Key.compare (key (.sum ts)) (key (.sum negated)) == .lt
  | .product (f :: _) => f.isNumber && f.numberSign == some (-1)
  | e => e.isNumber && e.numberSign == some (-1)
where
  count : List Expr → Nat
    | [] => 0
    | e :: r => (if hasMinusSign e then 1 else 0) + count r

end DirectionField.Algebra.Expr
