import DirectionField.Proofs.Rational

/-!
# Exact arithmetic with infinite and undefined values

The exact values that numbers stand for, as an arithmetic that the programs run with. Operations on
rational numbers do not round and lead to rational numbers, but for a division by zero. With the two
infinities and the undefined value they follow the floating-point standard; there is one zero.
-/

namespace DirectionField

namespace Extended

def isFinite : Extended → Bool
  | .finite _ => true
  | _ => false

def isNegative : Extended → Bool
  | .undefined => false
  | .infinite negative => negative
  | .finite q => decide (q < 0)

def neg : Extended → Extended
  | .undefined => .undefined
  | .infinite negative => .infinite !negative
  | .finite q => .finite (-q)

def abs : Extended → Extended
  | .undefined => .undefined
  | .infinite _ => .infinite false
  | .finite q => .finite |q|

def add : Extended → Extended → Extended
  | .finite p, .finite q => .finite (p + q)
  | .infinite m, .finite _ => .infinite m
  | .finite _, .infinite n => .infinite n
  | .infinite m, .infinite n => if m = n then .infinite m else .undefined
  | .undefined, _ | _, .undefined => .undefined

def mul : Extended → Extended → Extended
  | .finite p, .finite q => .finite (p * q)
  | .undefined, _ | _, .undefined => .undefined
  | a, b =>
    if a = .finite 0 ∨ b = .finite 0 then .undefined
    else .infinite (a.isNegative != b.isNegative)

def div : Extended → Extended → Extended
  | .finite p, .finite q =>
    if q ≠ 0 then .finite (p / q)
    else if p = 0 then .undefined
    else .infinite (decide (p < 0))
  | .infinite m, .finite q => .infinite (m != decide (q < 0))
  | .finite _, .infinite _ => .finite 0
  | .infinite _, .infinite _ | .undefined, _ | _, .undefined => .undefined

/-- The text of a value, given that of rational numbers. -/
def render (finite : ℚ → String) : Extended → String
  | .undefined => "nan"
  | .infinite negative => if negative then "-inf" else "inf"
  | .finite q => finite q

/-- Reads a number without rounding it, or the words for infinity and for the undefined value. -/
def read? (s : String) : Option Extended :=
  let (negative, cs) := Decimal.readSign (Text.stripChars s.toList)
  let word := (String.ofList cs).toLower
  if word == "inf" || word == "infinity" then some (.infinite negative)
  else if word == "nan" then some .undefined
  else (Proofs.readRational s).map .finite

instance : Numeral Extended where
  add := add
  sub a b := add a b.neg
  mul := mul
  div := div
  ofScientific m s e := .finite (OfScientific.ofScientific m s e)
  ofInt n := .finite n
  abs := abs
  lt := lt
  le := le
  isFinite := isFinite
  undefined := .undefined
  ofInt? n := some (.finite n)
  exact := id
  read? := read?
  shortest := render toString
  general precision := render (Proofs.generalRational precision)

/-! ## Rational numbers among the exact values -/

section Finite

variable (p q : ℚ)

@[simp] lemma finite_add : (finite p + finite q : Extended) = finite (p + q) := rfl

@[simp] lemma finite_sub : (finite p - finite q : Extended) = finite (p - q) := by
  rw [sub_eq_add_neg]
  rfl

@[simp] lemma finite_mul : (finite p * finite q : Extended) = finite (p * q) := rfl

variable {p q} in
lemma finite_div (hq : q ≠ 0) : (finite p / finite q : Extended) = finite (p / q) :=
  if_pos hq

@[simp] lemma ofInt_eq (n : ℤ) : (Arithmetic.ofInt n : Extended) = finite n := rfl

@[simp] lemma abs_finite : Arithmetic.abs (finite q) = finite |q| := rfl

@[simp] lemma isFinite_finite : Arithmetic.isFinite (finite q) = true := rfl

end Finite

lemma isFinite_iff {a : Extended} : Arithmetic.isFinite a = true ↔ ∃ q, a = .finite q := by
  cases a with
  | undefined => simp [Arithmetic.isFinite, isFinite]
  | infinite => simp [Arithmetic.isFinite, isFinite]
  | finite q => exact ⟨fun _ => ⟨q, rfl⟩, fun _ => rfl⟩

section Closed

variable {a b : Extended} (ha : Arithmetic.isFinite a = true) (hb : Arithmetic.isFinite b = true)
include ha

lemma isFinite_abs : Arithmetic.isFinite (Arithmetic.abs a) = true := by
  obtain ⟨p, rfl⟩ := isFinite_iff.mp ha
  rw [abs_finite, isFinite_finite]

lemma isFinite_div {n : ℤ} (hn : n ≠ 0) : Arithmetic.isFinite (a / Arithmetic.ofInt n) = true := by
  obtain ⟨p, rfl⟩ := isFinite_iff.mp ha
  rw [ofInt_eq, finite_div (Int.cast_ne_zero.mpr hn), isFinite_finite]

include hb

lemma isFinite_add : Arithmetic.isFinite (a + b) = true := by
  obtain ⟨p, rfl⟩ := isFinite_iff.mp ha
  obtain ⟨q, rfl⟩ := isFinite_iff.mp hb
  exact isFinite_finite (p + q)

lemma isFinite_mul : Arithmetic.isFinite (a * b) = true := by
  obtain ⟨p, rfl⟩ := isFinite_iff.mp ha
  obtain ⟨q, rfl⟩ := isFinite_iff.mp hb
  exact isFinite_finite (p * q)

end Closed

end Extended

/-! ## A field of reciprocals

The equation `dy/dx = 1/x` around the origin, where it has no slope, with a calculus that reads no
other formula. -/

namespace Proofs

section Reciprocal

variable {α : Type} [Arithmetic α]

def reciprocalCalculus : Calculus Unit α where
  read s := if s == "1/x" then .expression () else .fault .badSyntax
  applied _ := []
  symbols _ := [.x]
  computation _ := .ok fun x _ => .real (Arithmetic.ofInt 1 / x)

def reciprocalSlope : Slope α :=
  ⟨some "1/x", "1/x", "1/x", fun x _ => .real (Arithmetic.ofInt 1 / x), none⟩

lemma compile_reciprocal :
    (reciprocalCalculus : Calculus Unit α).compile (some "1/x") = .ok reciprocalSlope := by
  have hbody : Equation.body (some "1/x") = "1/x" := by decide
  have hplain : Equation.plain "1/x" = "1/x" := by decide +kernel
  have hcheck : (reciprocalCalculus : Calculus Unit α).check "1/x" = .ok () := by
    simp [Calculus.check, hplain, reciprocalCalculus, Calculus.inOrder, Calculus.coordinates]
  rw [Calculus.compile, hbody, hcheck, hplain]
  rfl

end Reciprocal

def reciprocalSettings : Settings Extended :=
  ⟨.whole (-1), .whole 1, .whole (-1), .whole 1, .real (.finite (1 / 4)), .whole 3⟩

def reciprocalField : Field Extended :=
  ⟨reciprocalSettings, 10, .ready, "1/x", some reciprocalSlope, [], 1⟩

end Proofs

end DirectionField
