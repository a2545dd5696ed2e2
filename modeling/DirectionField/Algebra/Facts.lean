import DirectionField.Algebra.Estimate
/-!
# What is known of an expression

Whether an expression is real, finite, whole or imaginary, and which signs it may have, as far as
its form tells for all real `x` and `y`. Constants are decided by estimate.
-/

namespace DirectionField.Algebra

structure Facts where
  real : Option Bool
  finite : Option Bool
  integer : Bool
  /-- Whether the value is a multiple of the imaginary unit other than zero. -/
  imaginary : Option Bool
  mayBeNegative : Bool
  mayBeZero : Bool
  mayBePositive : Bool

namespace Facts

def unknown : Facts := ⟨none, none, false, none, true, true, true⟩

/-- A finite real of any sign. -/
def anyReal : Facts := ⟨some true, some true, false, some false, true, true, true⟩

def ofSign (s : Int) (finite integer : Bool) : Facts :=
  ⟨some true, some finite, integer, some false, decide (s < 0), s == 0, decide (0 < s)⟩

def isReal (f : Facts) : Bool := f.real == some true

/-- Real, and of the signs that the test admits; `none` when other signs are possible too. -/
def sign (test : Int → Bool) (f : Facts) : Option Bool :=
  match f.real with
  | some false => some false
  | some true =>
    let may : List Int := (if f.mayBeNegative then [-1] else []) ++
      (if f.mayBeZero then [0] else []) ++ (if f.mayBePositive then [1] else [])
    if may.all test then some true else if may.any test then none else some false
  | none => none

def positive (f : Facts) : Option Bool := f.sign (0 < ·)
def negative (f : Facts) : Option Bool := f.sign (· < 0)
def nonnegative (f : Facts) : Option Bool := f.sign (0 ≤ ·)
def nonpositive (f : Facts) : Option Bool := f.sign (· ≤ 0)

def isPositive (f : Facts) : Bool := f.positive == some true
def isNegative (f : Facts) : Bool := f.negative == some true
def isNonnegative (f : Facts) : Bool := f.nonnegative == some true
def isNonpositive (f : Facts) : Bool := f.nonpositive == some true

def isZero (f : Facts) : Bool := f.isReal && !f.mayBeNegative && !f.mayBePositive

def isNonzero (f : Facts) : Bool := f.real == some false || !f.mayBeZero

def isImaginary (f : Facts) : Bool := f.imaginary == some true

def allTrue (p : Facts → Bool) (fs : List Facts) : Option Bool :=
  if fs.all p then some true else none

def sum (fs : List Facts) : Facts :=
  let allReal := fs.all isReal
  let oneComplex := (fs.filter fun f => !f.isReal).length == 1 && fs.any (·.real == some false)
  let neg := fs.any (·.mayBeNegative)
  let pos := fs.any (·.mayBePositive)
  { real := if allReal then some true else if oneComplex then some false else none
    finite := allTrue (·.finite == some true) fs
    integer := fs.all (·.integer)
    imaginary := if allReal then some false else none
    mayBeNegative := neg
    mayBeZero := (neg && pos) || fs.all (·.mayBeZero)
    mayBePositive := pos }

def product (fs : List Facts) : Facts :=
  let known := fs.all fun f => f.isReal || f.isImaginary
  let turns := (fs.filter isImaginary).length
  let mayBeZero := fs.any fun f => !f.isNonzero
  let real : Option Bool :=
    if !known then none
    else if turns % 2 == 0 then some true
    else if mayBeZero then none else some false
  let step (s : Bool × Bool) (f : Facts) : Bool × Bool :=
    if f.isImaginary then (true, true)
    else
      ((s.1 && f.mayBePositive) || (s.2 && f.mayBeNegative),
        (s.2 && f.mayBePositive) || (s.1 && f.mayBeNegative))
  -- the signs of the product, negative and positive
  let s := fs.foldl step (false, true)
  { real := real
    finite := allTrue (·.finite == some true) fs
    integer := fs.all (·.integer)
    imaginary := match real with
      | some true => some false
      | some false => some true
      | none => none
    mayBeNegative := s.1
    mayBeZero := mayBeZero
    mayBePositive := s.2 }

/-- The facts of a power; `literal` is the exponent when it is a rational number. -/
def power (b e : Facts) (literal : Option Rat) : Facts :=
  let whole := e.integer
  let even := literal.any fun q => q.den == 1 && q.num % 2 == 0
  let half := literal.any fun q => q.den == 2
  let finite : Option Bool :=
    if e.isNegative then
      if b.isZero then some false else if b.isNonzero then some true else none
    else if b.finite == some true && e.finite == some true &&
      (e.isNonnegative || b.isNonzero) then some true
    else none
  let real : Option Bool :=
    if b.isReal && e.isReal then
      if b.isPositive || (b.isNonnegative && e.isNonnegative) || (whole && b.isNonzero) ||
        (whole && e.isNonnegative) then some true
      else if b.isNegative && literal.any (fun q => q.den != 1) then some false
      else none
    else none
  let imaginary : Option Bool :=
    if b.isImaginary && whole then
      literal.map fun q => q.num % 2 != 0
    else if real == some true then some false
    else if b.isReal && half then b.negative
    else none
  let real := if imaginary == some true then some false
    else if b.isImaginary && even then some true else real
  { real := real
    finite := finite
    integer := b.integer && whole && e.isNonnegative
    imaginary := imaginary
    mayBeNegative := !(b.isReal && (even || b.isNonnegative))
    mayBeZero := !b.isNonzero
    mayBePositive := true }

/-- The facts of a function's value from those of its first argument. -/
def call (f : Fn) (args : List Facts) : Facts :=
  match args with
  | [] => unknown
  | a :: rest =>
    let finite := if a.finite == some true then some true else none
    match f with
    | .sin | .cos => if a.isReal then anyReal else unknown
    | .tan => if a.isReal then { anyReal with finite := none } else unknown
    | .atan => if a.isReal then { a with finite := some true, integer := false } else unknown
    | .sinh | .tanh | .asinh =>
      if a.isReal then { a with finite := finite, integer := false } else unknown
    | .cosh => if a.isReal then { ofSign 1 true false with finite := finite } else unknown
    | .exp =>
      if a.isReal then { ofSign 1 true false with finite := finite }
      else { unknown with mayBeZero := false }
    | .log =>
      if a.isNonnegative then
        { anyReal with finite := if a.isNonzero then finite else none }
      else unknown
    | .abs =>
      ⟨some true, finite, a.integer, some false, false, !a.isNonzero, !a.isZero⟩
    | .floor =>
      if a.isReal then { anyReal with finite := finite, integer := true } else unknown
    | .modulo =>
      if a.isReal && rest.all isReal then
        { anyReal with mayBeNegative := !(rest.all isPositive), finite := none }
      else unknown
    | .maximum | .minimum =>
      if (a :: rest).all isReal then { anyReal with finite := none } else unknown
    | _ => unknown

/-- The facts of a constant from its estimate. -/
def ofEstimate (e : Estimate) (integer : Bool) : Facts :=
  if !e.isReal then
    let turned : Estimate := ⟨⟨e.value.im, e.value.re⟩, e.error⟩
    ⟨some false, some true, false, some turned.isReal, false, false, false⟩
  else if e.isSignificant then
    ofSign (if e.value.re < 0.0 then -1 else 1) true integer
  else { anyReal with integer := integer }

end Facts

namespace Expr

/-- What the form of the expression tells of its value. -/
def facts (e : Expr) : Facts :=
  match e with
  | .rational q => .ofSign (if q < 0 then -1 else if q == 0 then 0 else 1) true (q.den == 1)
  | .rounded r => .ofSign r.mantissa.sign true false
  | .constant .pi | .constant .e => .ofSign 1 true false
  | .constant .imaginaryUnit => ⟨some false, some true, false, some true, false, false, false⟩
  | .constant .infinity => .ofSign 1 false false
  | .constant .negInfinity => .ofSign (-1) false false
  | .constant .undefined => .unknown
  | .constant .complexInfinity => ⟨some false, some false, false, some false, false, false, false⟩
  | .symbol s => if s.isReal then .anyReal else .unknown
  | .sum ts => constantOr e (.sum (allFacts ts))
  | .product fs => constantOr e (.product (allFacts fs))
  | .power b n => constantOr e (.power (facts b) (facts n) n.rational?)
  | .call f args => constantOr e (.call f (allFacts args))
  | .unknown .. | .abstraction .. => .unknown
where
  constantOr (e : Expr) (f : Facts) : Facts :=
    match e.estimate with
    | some est =>
      if est.value.re.isFinite && est.value.im.isFinite then .ofEstimate est f.integer else f
    | none => f
  allFacts : List Expr → List Facts
    | [] => []
    | e :: r => facts e :: allFacts r

def isReal (e : Expr) : Bool := e.facts.isReal

end Expr

end DirectionField.Algebra
