import DirectionField.Proofs.Rational

/-!
# The order of a step

For slopes that a polynomial in both coordinates gives, the ordinate that a step leads to is a
polynomial in the width of the step. Up to the fourth power of the width it is the Taylor polynomial
of the solution through the point of departure.
-/

namespace DirectionField.Proofs

open MvPolynomial (pderiv)
open Polynomial (C X derivative)
open scoped Polynomial

/-- The slopes that a polynomial in the two coordinates gives. -/
noncomputable def slopeOf (f : MvPolynomial (Fin 2) ℚ) (x y : ℚ) : ℚ := MvPolynomial.eval ![x, y] f

/-- The total derivative of `g` along the solutions of `dy/dx = f (x, y)`. -/
noncomputable def totalDerivative (f g : MvPolynomial (Fin 2) ℚ) : MvPolynomial (Fin 2) ℚ :=
  pderiv 0 g + f * pderiv 1 g

/-- The solution through a point up to the fourth power of the distance from it: its `k + 1`-st
derivative is the `k`-th total derivative of the slope. -/
noncomputable def taylor (f : MvPolynomial (Fin 2) ℚ) (p : Point ℚ) : ℚ[X] :=
  C p.y + ∑ k ∈ Finset.range 4,
    C (slopeOf ((totalDerivative f)^[k] f) p.x p.y / (k + 1).factorial) * X ^ (k + 1)

/-! ## Slopes along a path -/

section Path

variable (p : Point ℚ) (c : ℚ) (w : ℚ[X])

/-- A polynomial in the coordinates along the path from `p` with velocity `c` in `x` and mean
velocity `w` in `y`. -/
noncomputable def alongPath (g : MvPolynomial (Fin 2) ℚ) : ℚ[X] :=
  MvPolynomial.aeval ![C p.x + C c * X, C p.y + X * w] g

variable (g : MvPolynomial (Fin 2) ℚ)

lemma eval_alongPath (h : ℚ) :
    (alongPath p c w g).eval h = slopeOf g (p.x + c * h) (p.y + h * w.eval h) := by
  have hpath : (fun i => (![C p.x + C c * X, C p.y + X * w] i).eval h) =
      ![p.x + c * h, p.y + h * w.eval h] := by
    funext i
    fin_cases i <;> simp
  simp only [alongPath, ← Polynomial.coe_aeval_eq_eval, MvPolynomial.comp_aeval_apply] at hpath ⊢
  rw [hpath, slopeOf, MvPolynomial.aeval_eq_eval]

/-- The chain rule. -/
lemma derivative_alongPath :
    derivative (alongPath p c w g) =
      C c * alongPath p c w (pderiv 0 g) +
        (w + X * derivative w) * alongPath p c w (pderiv 1 g) := by
  unfold alongPath
  induction g using MvPolynomial.induction_on with
  | C a => simp
  | add g g' ih ih' =>
    simp only [map_add, ih, ih']
    ring
  | mul_X g i ih =>
    simp only [map_mul, MvPolynomial.aeval_X, Polynomial.derivative_mul, ih,
      MvPolynomial.pderiv_mul, map_add]
    fin_cases i <;> simp <;> ring

lemma coeff_velocity (n : ℕ) : (w + X * derivative w).coeff n = (n + 1) * w.coeff n := by
  cases n with
  | zero => simp
  | succ n =>
    rw [Polynomial.coeff_add, Polynomial.coeff_X_mul, Polynomial.coeff_derivative]
    push_cast
    ring

/-- The coefficients along a path, each from the earlier ones of the two partial derivatives. -/
lemma coeff_alongPath_succ (n : ℕ) :
    (alongPath p c w g).coeff (n + 1) * (n + 1) =
      c * (alongPath p c w (pderiv 0 g)).coeff n +
        ∑ k ∈ Finset.range (n + 1),
          (k + 1) * w.coeff k * (alongPath p c w (pderiv 1 g)).coeff (n - k) := by
  rw [← Polynomial.coeff_derivative, derivative_alongPath, Polynomial.coeff_add,
    Polynomial.coeff_C_mul, Polynomial.coeff_mul,
    Finset.Nat.sum_antidiagonal_eq_sum_range_succ_mk]
  simp only [coeff_velocity, Nat.succ_eq_add_one]

lemma coeff_alongPath_zero : (alongPath p c w g).coeff 0 = slopeOf g p.x p.y := by
  rw [Polynomial.coeff_zero_eq_eval_zero, eval_alongPath]
  simp

lemma coeff_alongPath_one :
    (alongPath p c w g).coeff 1 =
      c * slopeOf (pderiv 0 g) p.x p.y + w.coeff 0 * slopeOf (pderiv 1 g) p.x p.y := by
  have hsucc := coeff_alongPath_succ p c w g 0
  simp [coeff_alongPath_zero] at hsucc
  linear_combination hsucc

lemma coeff_alongPath_two :
    (alongPath p c w g).coeff 2 =
      (c * (alongPath p c w (pderiv 0 g)).coeff 1 +
        w.coeff 0 * (alongPath p c w (pderiv 1 g)).coeff 1) / 2 +
        w.coeff 1 * slopeOf (pderiv 1 g) p.x p.y := by
  have hsucc := coeff_alongPath_succ p c w g 1
  simp [Finset.sum_range_succ, coeff_alongPath_zero] at hsucc
  linear_combination hsucc / 2

lemma coeff_alongPath_three :
    (alongPath p c w g).coeff 3 =
      (c * (alongPath p c w (pderiv 0 g)).coeff 2 +
        w.coeff 0 * (alongPath p c w (pderiv 1 g)).coeff 2 +
        2 * w.coeff 1 * (alongPath p c w (pderiv 1 g)).coeff 1) / 3 +
        w.coeff 2 * slopeOf (pderiv 1 g) p.x p.y := by
  have hsucc := coeff_alongPath_succ p c w g 2
  simp [Finset.sum_range_succ, coeff_alongPath_zero] at hsucc
  linear_combination hsucc / 3

end Path

/-! ## Derivatives along solutions -/

section TotalDerivative

variable (f g : MvPolynomial (Fin 2) ℚ) (x y : ℚ)

lemma slopeOf_add : slopeOf (f + g) x y = slopeOf f x y + slopeOf g x y := map_add _ f g

lemma slopeOf_mul : slopeOf (f * g) x y = slopeOf f x y * slopeOf g x y := map_mul _ f g

lemma pderiv_comm (i j : Fin 2) : pderiv i (pderiv j g) = pderiv j (pderiv i g) := by
  let D (i : Fin 2) : Derivation ℚ (MvPolynomial (Fin 2) ℚ) (MvPolynomial (Fin 2) ℚ) := pderiv i
  -- the commutator is a derivation, and it vanishes on the coordinates
  have hzero : ⁅D i, D j⁆ = 0 := by
    apply MvPolynomial.derivation_ext
    intro k
    simp only [D, Derivation.commutator_apply, MvPolynomial.pderiv_X]
    fin_cases i <;> fin_cases j <;> fin_cases k <;> simp
  have happly := Derivation.congr_fun hzero g
  rwa [Derivation.commutator_apply, Derivation.zero_apply, sub_eq_zero] at happly

lemma slopeOf_totalDerivative :
    slopeOf (totalDerivative f g) x y =
      slopeOf (pderiv 0 g) x y + slopeOf f x y * slopeOf (pderiv 1 g) x y := by
  rw [totalDerivative, slopeOf_add, slopeOf_mul]

/-- A partial derivative passes a total one but for the slope that the latter goes along. -/
lemma pderiv_totalDerivative (i : Fin 2) :
    pderiv i (totalDerivative f g) =
      totalDerivative f (pderiv i g) + pderiv i f * pderiv 1 g := by
  simp only [totalDerivative, map_add, MvPolynomial.pderiv_mul, pderiv_comm g i]
  ring

end TotalDerivative

/-! ## The stages of a step -/

section Stages

variable (f : MvPolynomial (Fin 2) ℚ) (p : Point ℚ)

/-- The slope at the point of departure. -/
noncomputable def departureSlope : ℚ[X] := alongPath p 0 0 f

/-- The slope half a step on, along the slope at the departure. -/
noncomputable def firstMiddleSlope : ℚ[X] :=
  alongPath p (1 / 2) (C (1 / 2) * departureSlope f p) f

/-- The slope half a step on, along the first slope that was found there. -/
noncomputable def secondMiddleSlope : ℚ[X] :=
  alongPath p (1 / 2) (C (1 / 2) * firstMiddleSlope f p) f

/-- The slope a step on, along the second slope halfway. -/
noncomputable def arrivalSlope : ℚ[X] := alongPath p 1 (secondMiddleSlope f p) f

/-- The slope that a step follows, as a polynomial in its width. -/
noncomputable def meanSlope : ℚ[X] :=
  C (1 / 6) * (departureSlope f p + 2 * firstMiddleSlope f p + 2 * secondMiddleSlope f p +
    arrivalSlope f p)

lemma eval_meanSlope (h : ℚ) :
    (C p.y + X * meanSlope f p).eval h = (Stages.compute (slopeOf f) p.x p.y h).next := by
  simp only [meanSlope, departureSlope, firstMiddleSlope, secondMiddleSlope, arrivalSlope,
    Polynomial.eval_add, Polynomial.eval_mul, Polynomial.eval_C, Polynomial.eval_X,
    Polynomial.eval_ofNat, Polynomial.eval_zero, mul_zero, zero_mul, add_zero, eval_alongPath,
    Stages.compute, ofInt_rat]
  ring_nf

/-- The conditions for the fourth order: the first four coefficients of the mean slope are those of
the solution. -/
lemma coeff_meanSlope {n : ℕ} (hn : n < 4) :
    (meanSlope f p).coeff n =
      slopeOf ((totalDerivative f)^[n] f) p.x p.y / (n + 1).factorial := by
  -- both sides become polynomials in the slope and its partial derivatives at `p`
  interval_cases n <;>
    simp only [meanSlope, departureSlope, firstMiddleSlope, secondMiddleSlope, arrivalSlope,
      Polynomial.coeff_C_mul, Polynomial.coeff_add, Polynomial.coeff_ofNat_mul,
      coeff_alongPath_zero, coeff_alongPath_one, coeff_alongPath_two, coeff_alongPath_three,
      Polynomial.coeff_zero, Function.iterate_succ_apply', Function.iterate_zero_apply,
      slopeOf_totalDerivative, pderiv_totalDerivative, map_add, MvPolynomial.pderiv_mul,
      slopeOf_add, slopeOf_mul, fun g => pderiv_comm g 1 0, Nat.factorial]
  all_goals
    norm_num
    ring

end Stages

lemma coeff_taylor_zero (f : MvPolynomial (Fin 2) ℚ) (p : Point ℚ) :
    (taylor f p).coeff 0 = p.y := by
  simp [taylor, Polynomial.finsetSum_coeff]

lemma coeff_taylor_succ (f : MvPolynomial (Fin 2) ℚ) (p : Point ℚ) {n : ℕ} (hn : n < 4) :
    (taylor f p).coeff (n + 1) =
      slopeOf ((totalDerivative f)^[n] f) p.x p.y / (n + 1).factorial := by
  simp [taylor, Polynomial.finsetSum_coeff, Polynomial.coeff_C_succ, hn]

/-- For polynomial slopes, the ordinate after a step of width `h`, to the right or to the left, is a
polynomial in `h` that agrees with that of Taylor up to a multiple of `h ^ 5`. -/
theorem step_agrees_with_taylor (f : MvPolynomial (Fin 2) ℚ) (p : Point ℚ) :
    ∃ next : ℚ[X], (∀ h, next.eval h = (Stages.compute (slopeOf f) p.x p.y h).next) ∧
      X ^ 5 ∣ next - taylor f p := by
  refine ⟨C p.y + X * meanSlope f p, eval_meanSlope f p, ?_⟩
  rw [Polynomial.X_pow_dvd_iff]
  intro n hn
  rw [Polynomial.coeff_sub, sub_eq_zero]
  cases n with
  | zero =>
    rw [coeff_taylor_zero]
    simp
  | succ n =>
    have hn' : n < 4 := by omega
    rw [coeff_taylor_succ f p hn', Polynomial.coeff_add, Polynomial.coeff_C_succ, zero_add,
      Polynomial.coeff_X_mul, coeff_meanSlope f p hn']

end DirectionField.Proofs
