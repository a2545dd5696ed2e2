import DirectionField.Field
import DirectionField.Proofs.RunExtent

/-!
# Exact arithmetic

The rational numbers as an arithmetic that the programs run with: no operation rounds, and every
number is finite. Data and settings that hold numbers are compared by the order of the rationals.
-/

namespace DirectionField.Proofs

/-- Reads a decimal number without rounding it. -/
def readRational (s : String) : Option ℚ :=
  let (negative, cs) := Decimal.readSign (Text.stripChars s.toList)
  (Decimal.readScientific cs).map fun (m, k) => (if negative then -1 else 1) * m * 10 ^ k

/-- At most `precision` significant digits, laid out as those of a double. -/
def generalRational (precision : Nat) (q : ℚ) : String :=
  let p := max precision 1
  (if q < 0 then "-" else "") ++
    Decimal.layOut ⟨fun k => decide (-4 ≤ k ∧ k < p), false, true⟩
      (if q = 0 then ⟨['0'], 0⟩
        else Decimal.significantBy Decimal.roundHalfEven p q.num.natAbs q.den)

/-- No rational number is undefined; zero, the slope of the flat field, stands in for a value that
a computation does not have. -/
instance : Numeral ℚ where
  ofInt n := n
  abs q := |q|
  lt a b := decide (a < b)
  le a b := decide (a ≤ b)
  isFinite _ := true
  undefined := 0
  ofInt? n := some n
  exact := .finite
  read? := readRational
  shortest := toString
  general := generalRational

@[simp] lemma ofInt_rat (n : Int) : (Arithmetic.ofInt n : ℚ) = n := rfl

@[simp] lemma abs_rat (q : ℚ) : Arithmetic.abs q = |q| := rfl

@[simp] lemma lt_rat (a b : ℚ) : Arithmetic.lt a b = decide (a < b) := rfl

@[simp] lemma le_rat (a b : ℚ) : Arithmetic.le a b = decide (a ≤ b) := rfl

@[simp] lemma exact_rat (q : ℚ) : Numeral.exact q = .finite q := rfl

/-! ## Data that hold numbers -/

/-- The datum is a number of this value. -/
def HasValue (d : Datum ℚ) (q : ℚ) : Prop := d.exactValue? = some (.finite q)

lemma HasValue.toNumber {d : Datum ℚ} {q : ℚ} (h : HasValue d q) : d.toNumber = .ok q := by
  cases d <;> simp [HasValue, Datum.exactValue?, Datum.whole?] at h <;>
    simp [Datum.toNumber, Datum.whole?, Numeral.ofInt?, h]

lemma HasValue.isNumber {d : Datum ℚ} {q : ℚ} (h : HasValue d q) : d.isNumber = true := by
  cases d <;> simp [HasValue, Datum.exactValue?, Datum.whole?] at h <;> rfl

lemma Extended.lt_finite (p q : ℚ) :
    Extended.lt (.finite p) (.finite q) = decide (p < q) := rfl

lemma Extended.le_finite (p q : ℚ) :
    Extended.le (.finite p) (.finite q) = decide (p ≤ q) := by
  simp [Extended.le, Extended.lt, Extended.beq, le_iff_lt_or_eq]

section Order

variable {a b : Datum ℚ} {p q : ℚ} (ha : HasValue a p) (hb : HasValue b q)
include ha hb

lemma HasValue.inOrder (strict : Bool) :
    Datum.inOrder strict a b = .ok (if strict then decide (p < q) else decide (p ≤ q)) := by
  cases a <;> simp [HasValue, Datum.exactValue?, Datum.whole?] at ha <;>
    cases b <;> simp [HasValue, Datum.exactValue?, Datum.whole?] at hb <;>
    subst ha hb <;> cases strict <;>
    simp [Datum.inOrder, Datum.compareNumbers, Datum.exactValue?, Datum.whole?,
      Extended.lt_finite, Extended.le_finite]

lemma HasValue.lt : a.lt b = .ok (decide (p < q)) := ha.inOrder hb true

lemma HasValue.le : a.le b = .ok (decide (p ≤ q)) := ha.inOrder hb false

end Order

/-! ## Settings in numbers -/

/-- The rectangle, the width of a step and the number of steps as numbers. -/
structure ExactSettings where
  xMin : ℚ
  xMax : ℚ
  yMin : ℚ
  yMax : ℚ
  step : ℚ
  maxSteps : ℤ

namespace ExactSettings

/-- The settings hold these numbers, in whatever spelling. -/
structure Describes (e : ExactSettings) (s : Settings ℚ) : Prop where
  xMin : HasValue s.xMin e.xMin
  xMax : HasValue s.xMax e.xMax
  yMin : HasValue s.yMin e.yMin
  yMax : HasValue s.yMax e.yMax
  step : HasValue s.step e.step
  maxSteps : s.maxSteps.whole? = some e.maxSteps

/-- The point lies in the rectangle, its border included. -/
def Contains (e : ExactSettings) (p : Point ℚ) : Prop :=
  e.xMin ≤ p.x ∧ p.x ≤ e.xMax ∧ e.yMin ≤ p.y ∧ p.y ≤ e.yMax

variable {e : ExactSettings} {s : Settings ℚ}

lemma Describes.hasBorders (h : e.Describes s) : HasBorders s :=
  ⟨h.xMin.isNumber, h.xMax.isNumber, h.yMin.isNumber, h.yMax.isNumber⟩

lemma Describes.regionOf_iff (h : e.Describes s) (p : Point ℚ) :
    regionOf s p = .ok true ↔ e.Contains p := by
  have hx : HasValue (.real p.x) p.x := rfl
  have hy : HasValue (.real p.y) p.y := rfl
  simp only [regionOf, Settings.contains, h.xMin.le hx, hx.le h.xMax, h.yMin.le hy, hy.le h.yMax,
    Contains]
  by_cases h1 : e.xMin ≤ p.x <;> by_cases h2 : p.x ≤ e.xMax <;> by_cases h3 : e.yMin ≤ p.y <;>
    simp [h1, h2, h3, Bind.bind, Except.bind, Pure.pure, Except.pure]

lemma Describes.boxLimit_missing (h : e.Describes s) :
    boxLimit s .missing = .ok e.maxSteps.toNat := by
  simp [boxLimit, Datum.isMissing, Run.stepLimit, h.maxSteps]

lemma Describes.toWhole_maxSteps (h : e.Describes s) : s.maxSteps.toWhole = .ok e.maxSteps :=
  toWhole_of_whole? h.maxSteps

/-- Settings pass their checks when both ranges run upwards, the step is positive and at least one
step is allowed. -/
lemma Describes.checked_iff (h : e.Describes s) :
    s.checked = .ok s ↔
      e.xMin < e.xMax ∧ e.yMin < e.yMax ∧ 0 < e.step ∧ 1 ≤ e.maxSteps := by
  have hzero : HasValue (.whole 0) 0 := rfl
  rw [← Int.not_lt]
  simp only [Settings.checked, Settings.checkRange, Settings.checkStep, Settings.checkMaxSteps,
    h.xMin.lt h.xMax, h.yMin.lt h.yMax, hzero.lt h.step, h.toWhole_maxSteps]
  by_cases h1 : e.xMin < e.xMax <;> by_cases h2 : e.yMin < e.yMax <;> by_cases h3 : 0 < e.step <;>
    by_cases h4 : e.maxSteps < 1 <;>
    simp [h1, h2, h3, h4, Bind.bind, Except.bind, Pure.pure, Except.pure]

end ExactSettings

/-! ## A field of decay

The equation `dy/dx = -y` in a small rectangle, with a calculus that reads no other formula: runs in
it can be computed. -/

def decayCalculus : Calculus Unit ℚ where
  read s := if s == "-y" then .expression () else .fault .badSyntax
  applied _ := []
  symbols _ := [.y]
  computation _ := .ok fun _ y => .real (-y)

def decaySlope : Slope ℚ := ⟨some "dy/dx = -y", "-y", "-y", fun _ y => .real (-y), none⟩

def decaySettings : Settings ℚ := ⟨.whole (-1), .whole 1, .real 0, .real 4, .real (1 / 2), .whole 3⟩

def decayField : Field ℚ :=
  ⟨decaySettings, 10, .ready, "dy/dx = -y", some decaySlope, [], 1⟩

def decayExact : ExactSettings := ⟨-1, 1, 0, 4, 1 / 2, 3⟩

lemma compile_decay : decayCalculus.compile (some "dy/dx = -y") = .ok decaySlope := by
  have hbody : Equation.body (some "dy/dx = -y") = "-y" := by decide
  have hcheck : decayCalculus.check "-y" = .ok () := by decide +kernel
  rw [Calculus.compile, hbody, hcheck]
  rfl

lemma decayExact_describes : decayExact.Describes decaySettings := by
  constructor
  all_goals rfl

lemma decaySettings_checked : decaySettings.checked = .ok decaySettings :=
  decayExact_describes.checked_iff.mpr (by norm_num [decayExact])

/-! ## Fields of given slopes -/

/-- A slope function without a body, so that nothing keeps it from giving these slopes. -/
def givenSlope (v : ℚ → ℚ → ℚ) : Slope ℚ := ⟨none, "", "", fun x y => .real (v x y), none⟩

lemma value_givenSlope (v : ℚ → ℚ → ℚ) : (givenSlope v).value = v := rfl

def givenField (v : ℚ → ℚ → ℚ) (settings : Settings ℚ) : Field ℚ :=
  ⟨settings, 10, .ready, "", some (givenSlope v), [], 1⟩

end DirectionField.Proofs
