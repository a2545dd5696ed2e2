import DirectionField.Proofs.Acceptance
import DirectionField.Proofs.TotalSlopes

/-!
# Slopes that are no real numbers

A computation may lead to a complex number, whose imaginary part decides whether it counts as a
slope. With an imaginary part of zero it counts by its real part; with one that is a number other
than zero, or is infinite, there is a gap, as where the computation is refused. An imaginary part
that is undefined has no size, and lets the real part through.
-/

namespace DirectionField.Proofs

open DirectionField.Algebra (Expr)

/-- The outcome is the real number `v`. -/
inductive IsReal : Outcome Float → Float → Prop
  | real (v : Float) : IsReal (.real v) v
  | complex (v im : Float) (him : Numeral.exact im = .finite 0) : IsReal (.complex v im) v

/-- The outcome is a complex number with the real part `v` and an undefined imaginary part. -/
inductive IsHalfDefined : Outcome Float → Float → Prop
  | complex (v im : Float) (him : Numeral.exact im = .undefined) : IsHalfDefined (.complex v im) v

/-- There is no slope at the point: no raw value, a level value in its place, and no sample. -/
structure IsGap (f : Slope Float) (x y : Float) : Prop where
  evaluate : Numeral.exact (f.evaluate x y) = .undefined
  value : f.value x y = 0
  sample : ∀ p, IsSampleOf f p → ¬ (p.x = x ∧ p.y = y)

lemma givesReal_iff {o : Outcome Float} {v : Float} :
    GivesReal o v ↔ IsReal o v ∨ IsHalfDefined o v := by
  constructor
  · rintro (_ | ⟨_, im, him | him⟩)
    · exact .inl (.real v)
    · exact .inl (.complex v im him)
    · exact .inr (.complex v im him)
  · rintro ((_ | ⟨_, im, him⟩) | ⟨_, im, him⟩)
    · exact .real v
    · exact .complex v im (.inl him)
    · exact .complex v im (.inr him)

lemma isGap_of_undefined {f : Slope Float} {x y : Float}
    (h : Numeral.exact (f.evaluate x y) = .undefined) : IsGap f x y := by
  have hgap : Arithmetic.isFinite (f.evaluate x y) = false := by
    rw [← Bool.not_eq_true, isFinite_double_iff, h]
    simp
  refine ⟨h, ?_, ?_⟩
  · by_cases hnear : DividesByNearZero f.body x y
    · exact (totalAt f x y).guarded hnear
    · exact (totalAt f x y).gap hnear hgap
  · rintro p hp ⟨rfl, rfl⟩
    obtain ⟨hslope, hfinite⟩ := hp.slope_eq
    rw [hslope, hgap] at hfinite
    cases hfinite

/-- A raw slope that is defined is the real number that the computation gives, or the real part of a
complex one with an undefined imaginary part. Where it gives neither there is a gap, and so there is
wherever the raw slope is undefined. -/
theorem real_slopes_count (f : Slope Float) (x y : Float) :
    (Numeral.exact (f.evaluate x y) ≠ .undefined →
      IsReal (f.compute x y) (f.evaluate x y) ∨ IsHalfDefined (f.compute x y) (f.evaluate x y)) ∧
    (∀ v, IsReal (f.compute x y) v ∨ IsHalfDefined (f.compute x y) v → f.evaluate x y = v) ∧
    ((∀ v, ¬ IsReal (f.compute x y) v) → (∀ v, ¬ IsHalfDefined (f.compute x y) v) → IsGap f x y) ∧
    (Numeral.exact (f.evaluate x y) = .undefined → IsGap f x y) := by
  refine ⟨?_, ?_, ?_, isGap_of_undefined⟩
  · intro hdefined
    exact givesReal_iff.mp ((realValue_eq_iff hdefined).mp rfl)
  · intro v hv
    exact realValue_of_givesReal (givesReal_iff.mpr hv)
  · intro hreal hhalf
    have hnone (v : Float) : ¬ GivesReal (f.compute x y) v :=
      fun hv => (givesReal_iff.mp hv).elim (hreal v) (hhalf v)
    apply isGap_of_undefined
    rw [Slope.evaluate, realValue_of_not_givesReal hnone, exact_arithmetic_undefined]

/-- The slope `x + y i`: it counts on the axis of abscissae, and there is a gap at `(1, 2)`. -/
theorem real_slopes_count_complex :
    let f : Slope Float := ⟨none, "x + I*y", "x + I*y", .complex, none⟩
    f.evaluate 1 0 = 1 ∧ IsGap f 1 2 := by
  intro f
  have hreal : IsReal (f.compute 1 0) 1 := .complex 1 0 (by decide +kernel)
  obtain ⟨-, hcounts, -, -⟩ := real_slopes_count f 1 0
  obtain ⟨-, -, hgap, -⟩ := real_slopes_count f 1 2
  have htwo : Numeral.exact (2 : Float) = .finite 2 := by decide +kernel
  refine ⟨hcounts 1 (.inl hreal), hgap ?_ ?_⟩
  · intro v hv
    cases hv with
    | complex _ _ him =>
      rw [htwo] at him
      cases him
  · intro v hv
    cases hv with
    | complex _ _ him =>
      rw [htwo] at him
      cases him

/-- The expression `x (1 + y i) - 2 i x y`, which is `x - x y i`. -/
def mixedExpr : Expr :=
  .sum [.product [.symbol .x, .sum [.one, .product [.imaginaryUnit, .symbol .y]]],
    .product [.rational (-2), .imaginaryUnit, .symbol .x, .symbol .y]]

lemma read_mixed : Formula.read "x*(1 + I*y) - 2*I*x*y" = .ok (.expr mixedExpr) := by
  cbv

lemma computation_mixed : Formula.computation mixedExpr =
    .ok fun x y => Formula.outcome (mixedExpr.program.run x y) := by
  have hpole : mixedExpr.has Expr.isComplexInfinity = false := by decide +kernel
  have hhuge : Formula.hasHugeNumber mixedExpr = false := by decide +kernel
  simp only [Formula.computation, hpole, hhuge, Bool.false_eq_true, if_false]

def mixedSlope : Slope Float where
  source := some "x*(1 + I*y) - 2*I*x*y"
  body := "x*(1 + I*y) - 2*I*x*y"
  expression := "x*(1 + I*y) - 2*I*x*y"
  compute x y := Formula.outcome (mixedExpr.program.run x y)
  error := none

lemma compile_mixed : Formula.calculus.compile (some "x*(1 + I*y) - 2*I*x*y") = .ok mixedSlope := by
  have hbody : Equation.body (some "x*(1 + I*y) - 2*I*x*y") = "x*(1 + I*y) - 2*I*x*y" := by
    decide +kernel
  have hplain : Equation.plain "x*(1 + I*y) - 2*I*x*y" = "x*(1 + I*y) - 2*I*x*y" := by
    decide +kernel
  have hread : Formula.calculus.read "x*(1 + I*y) - 2*I*x*y" = .expression mixedExpr := by
    simp only [Formula.calculus, read_mixed]
  have hcheck : Formula.calculus.check "x*(1 + I*y) - 2*I*x*y" = .ok mixedExpr :=
    check_of_known (by rw [hplain, hread]) (by decide +kernel) (by decide +kernel)
  have hcomputation : Formula.calculus.computation = Formula.computation := rfl
  rw [compile_of_checked (by rw [hbody]; decide) (by rw [hbody, hcheck]), hcomputation,
    computation_mixed, hbody, hplain]
  rfl

/-- At `(10²⁰⁰, 10²⁰⁰)` both imaginary parts are too large, and their sum is undefined: the slope is
not real, and yet it counts as `10²⁰⁰` and has a sample. -/
theorem half_defined_slope_counts :
    ∃ f, Formula.calculus.compile (some "x*(1 + I*y) - 2*I*x*y") = .ok f ∧
      (∀ v, ¬ IsReal (f.compute 1e200 1e200) v) ∧
      Numeral.exact (f.evaluate 1e200 1e200) ≠ .undefined ∧ f.value 1e200 1e200 ≠ 0 ∧
      ∃ p, IsSampleOf f p ∧ p.x = 1e200 ∧ p.y = 1e200 := by
  refine ⟨mixedSlope, compile_mixed, ?_, by decide +kernel, by decide +kernel, ?_⟩
  · have hmixed : (match mixedSlope.compute 1e200 1e200 with
        | .complex _ im => decide (Numeral.exact im = .undefined)
        | _ => false) = true := by
      decide +kernel
    split at hmixed
    · rename_i re im houtcome
      rw [houtcome]
      intro v hv
      cases hv with
      | complex _ _ him =>
        rw [him] at hmixed
        cases of_decide_eq_true hmixed
    · cases hmixed
  · obtain ⟨samples, hs, p, hp, hx, hy⟩ := exists_of_decided
      (x := Grid.sample mixedSlope.evaluate
        (.list [.real 1e200, .real 1e200, .real 1e200, .real 1e200]) (.whole 1) none)
      (P := fun samples => ∃ p ∈ samples, p.x = 1e200 ∧ p.y = 1e200) (by decide +kernel)
    exact ⟨p, .grid _ _ _ samples hs hp, hx, hy⟩

end DirectionField.Proofs
