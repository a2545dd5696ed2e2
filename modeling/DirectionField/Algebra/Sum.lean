import DirectionField.Algebra.Builders
/-!
# Sums

A sum is flattened, its numbers are added up and like terms are collected: the coefficients of
equal expressions are added and a term whose coefficient becomes zero is dropped. An infinite
number takes up the finite real terms.
-/

namespace DirectionField.Algebra.Sum

/-- The parts of a sum under construction: its number, which may be complex infinity, and a
coefficient for each of its other terms. -/
structure Parts where
  number : Expr
  terms : List (Expr × Expr)

/-- Adds a coefficient to a term. -/
def addTerm (c t : Expr) : List (Expr × Expr) → List (Expr × Expr)
  | [] => [(t, c)]
  | (s, d) :: r => if s == t then (s, Expr.addNumbers d c) :: r else (s, d) :: addTerm c t r

/-- Takes one more term in; `none` when the sum is undefined. -/
def insert (p : Parts) (e : Expr) : Option Parts :=
  if e.isUndefined then none
  else if e.isComplexInfinity then
    if p.number.isInfinite || p.number.isComplexInfinity then none
    else some { p with number := .complexInfinity }
  else if e.isNumber then
    if p.number.isComplexInfinity then (if e.isInfinite then none else some p)
    else
      let s := Expr.addNumbers p.number e
      if s.isUndefined then none else some { p with number := s }
  else
    let (c, t) := e.splitCoefficient
    some { p with terms := addTerm c t p.terms }

/-- The terms that remain beside the number: a finite real term disappears beside an infinite
number, and any finite term of known kind beside complex infinity. -/
def survivors (number : Expr) (ts : List Expr) : List Expr :=
  if number == .infinity then
    ts.filter fun t => let f := t.facts; !(f.isNonnegative || (f.isReal && f.finite == some true))
  else if number == .negInfinity then
    ts.filter fun t => let f := t.facts; !(f.isNonpositive || (f.isReal && f.finite == some true))
  else if number.isComplexInfinity then
    ts.filter fun t => let f := t.facts; !(f.finite == some true && f.real.isSome)
  else ts

/-- The simplified sum of simplified expressions. -/
def build (B : Builders) (es : List Expr) : Expr :=
  match (es.flatMap Expr.terms).foldlM insert (⟨.zero, []⟩ : Parts) with
  | none => .undefined
  | some p =>
    let ts := (p.terms.filter fun t => !t.2.isZero).map fun t =>
      if t.1.isSum then B.product [t.2, t.1] else Expr.withCoefficient t.2 t.1
    if ts.any Expr.isUndefined then .undefined
    else
      let ts := Expr.sorted (survivors p.number ts)
      let all := if p.number == .zero then ts else p.number :: ts
      match all with
      | [] => .zero
      | [e] => e
      | _ => .sum all

end DirectionField.Algebra.Sum
