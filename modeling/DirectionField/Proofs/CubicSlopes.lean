import DirectionField.Proofs.IntervalRuns

/-!
# Slopes that are integrated exactly

A step along slopes that depend on the abscissa only is the rule of Simpson for their integral. In
exact arithmetic it is exact for cubic polynomials, in both directions, and so are all runs and
curves that are made of such steps.
-/

namespace DirectionField.Proofs

open Polynomial (C X derivative)
open scoped Polynomial

/-- The point lies on the graph through a seed of a function with this antiderivative. -/
def IsOnGraph (P : ℚ[X]) (seed p : Point ℚ) : Prop := p.y = seed.y + P.eval p.x - P.eval seed.x

/-! ## Steps -/

section Steps

variable {f : ℚ → ℚ → ℚ} {p P : ℚ[X]} {seed : Point ℚ} {h : ℚ}

/-- The rule of Simpson, from `x` to the right or to the left. -/
lemma simpson (hp : p.natDegree ≤ 3) (hP : derivative P = p) (x h : ℚ) :
    h / 6 * (p.eval x + 4 * p.eval (x + h / 2) + p.eval (x + h)) = P.eval (x + h) - P.eval x := by
  have hcoeff (n : ℕ) : p.coeff n = P.coeff (n + 1) * (n + 1) := by
    rw [← hP, Polynomial.coeff_derivative]
  have hdegree : p.natDegree = P.natDegree - 1 := by
    rw [← hP, Polynomial.natDegree_derivative]
  have hp4 : p.natDegree < 4 := by omega
  have hP5 : P.natDegree < 5 := by omega
  simp only [Polynomial.eval_eq_sum_range' hP5, Polynomial.eval_eq_sum_range' hp4, hcoeff,
    Finset.sum_range_succ, Finset.sum_range_zero]
  push_cast
  ring

lemma next_of_abscissa (hf : ∀ x y, f x y = p.eval x) (x y h : ℚ) :
    (Stages.compute f x y h).next =
      y + h / 6 * (p.eval x + 4 * p.eval (x + h / 2) + p.eval (x + h)) := by
  simp only [Stages.compute, hf, ofInt_rat]
  push_cast
  ring

variable (hp : p.natDegree ≤ 3) (hP : derivative P = p) (hf : ∀ x y, f x y = p.eval x)
include hp hP hf

lemma isOnGraph_orbit (n : ℕ) : IsOnGraph P seed (orbit f seed h n) := by
  unfold IsOnGraph
  induction n with
  | zero => simp [orbit]
  | succ n ih =>
    have hstep : (orbit f seed h (n + 1)).y = (orbit f seed h n).y +
        (P.eval ((orbit f seed h n).x + h) - P.eval (orbit f seed h n).x) := by
      rw [← simpson hp hP, ← next_of_abscissa hf]
      rfl
    rw [hstep, ih, orbit_x_succ]
    ring

lemma isOnGraph_signedOrbit (k : ℤ) : IsOnGraph P seed (signedOrbit f seed h k) := by
  cases k with
  | ofNat n => exact isOnGraph_orbit hp hP hf n
  | negSucc n => exact isOnGraph_orbit hp hP hf (n + 1)

end Steps

/-! ## Runs and curves -/

section Runs

variable {x₀ y₀ xEnd h ceiling : Datum ℚ} {seed : Point ℚ} {e w : ℚ}

lemma ceilingSteps_of_isNumber (hc : ceiling.isNumber = true) (x e w : ℚ) :
    ∃ limit, Run.ceilingSteps x e w ceiling = .ok limit := by
  cases ceiling <;> simp [Datum.isNumber] at hc <;>
    simp [Run.ceilingSteps, Datum.exactValue?, Datum.whole?]

/-- A run over an interval in numbers returns under every ceiling that is a number. -/
lemma interval_returns_of_isNumber (f : ℚ → ℚ → ℚ) (hx : x₀.toNumber = .ok seed.x)
    (hy : y₀.toNumber = .ok seed.y) (he : xEnd.toNumber = .ok e) (hw : HasValue h w) (hpos : 0 < w)
    (hc : ceiling.isNumber = true) : ∃ r, Run.interval f x₀ y₀ xEnd h ceiling = .ok r := by
  obtain ⟨limit, hlimit⟩ := ceilingSteps_of_isNumber hc seed.x e w
  simp only [Run.interval, hw.checkStep_of_pos hpos, hx, hy, he, hw.toNumber, hlimit, Bind.bind,
    Except.bind]
  split <;> exact ⟨_, rfl⟩

/-- Along slopes that a polynomial of third degree in the abscissa gives, each point of a run over
an interval and each point of a curve, on both sides of its seed, lies on the graph of the
antiderivative through the seed. -/
theorem cubic_slopes_exact {ε : Type} {p P : ℚ[X]} (hp : p.natDegree ≤ 3) (hP : derivative P = p)
    (hx : x₀.toNumber = .ok seed.x) (hy : y₀.toNumber = .ok seed.y) :
    (∀ (xEnd h ceiling : Datum ℚ) (e w : ℚ), xEnd.toNumber = .ok e → HasValue h w → 0 < w →
      ceiling.isNumber = true →
      ∃ r, Run.interval (fun x _ => p.eval x) x₀ y₀ xEnd h ceiling = .ok r ∧
        ∀ q ∈ r.points, IsOnGraph P seed q) ∧
    (∀ (C : Calculus ε ℚ) (s : Field ℚ) (g : Slope ℚ) (e : ExactSettings),
      (s.ensureCompiled C).result = .ok g → (∀ x y, g.value x y = p.eval x) →
      e.Describes s.settings → s.settings.checked = .ok s.settings →
      ∃ c, (s.addCurve C x₀ y₀).result = .ok c ∧
        ∀ q ∈ c.points, IsOnGraph P seed q) := by
  constructor
  · intro xEnd h ceiling e w he hw hpos hc
    obtain ⟨r, hr⟩ :=
      interval_returns_of_isNumber (fun x _ => p.eval x) hx hy he hw hpos hc
    obtain ⟨n, hpoints⟩ := points_of_interval hx hy hw.toNumber hr
    refine ⟨r, hr, ?_⟩
    intro q hq
    rw [hpoints, orbitUpTo, List.mem_map] at hq
    obtain ⟨k, -, rfl⟩ := hq
    exact isOnGraph_orbit hp hP (fun _ _ => rfl) k
  · intro C s g e hg hvalue he hvalid
    obtain ⟨c, m, n, hresult, -, hc⟩ := addCurve_followsOrbit C s hg he hvalid hx hy
    refine ⟨c, hresult, ?_⟩
    intro q hq
    rw [hc.points_eq] at hq
    obtain ⟨k, -, -, rfl⟩ := mem_orbitBetween.mp hq
    exact isOnGraph_signedOrbit hp hP hvalue k

/-- The third power of the abscissa, from a seed halfway to the right border of the rectangle. -/
theorem cubic_slopes_exact_cube :
    (X ^ 3 : ℚ[X]).natDegree ≤ 3 ∧ derivative (C (1 / 4) * X ^ 4 : ℚ[X]) = X ^ 3 ∧
    decaySettings.checked = .ok decaySettings ∧
    (∃ r, Run.interval (fun x _ => (X ^ 3 : ℚ[X]).eval x) (.real (1 / 2)) (.whole 1) (.whole 3)
        (.real (1 / 4)) (.whole 6) = .ok r ∧
      ∀ q ∈ r.points, IsOnGraph (C (1 / 4) * X ^ 4) ⟨1 / 2, 1⟩ q) ∧
    ∃ c, ((givenField (fun x _ => x ^ 3) decaySettings).addCurve decayCalculus (.real (1 / 2))
        (.whole 1)).result = .ok c ∧
      ∀ q ∈ c.points, IsOnGraph (C (1 / 4) * X ^ 4) ⟨1 / 2, 1⟩ q := by
  have hp : (X ^ 3 : ℚ[X]).natDegree ≤ 3 := Polynomial.natDegree_X_pow_le 3
  have hP : derivative (C (1 / 4) * X ^ 4 : ℚ[X]) = X ^ 3 := by
    rw [Polynomial.derivative_C_mul_X_pow]
    norm_num
  have hx : (Datum.real (1 / 2) : Datum ℚ).toNumber = .ok (⟨1 / 2, 1⟩ : Point ℚ).x := rfl
  have hy : (Datum.whole 1 : Datum ℚ).toNumber = .ok (⟨1 / 2, 1⟩ : Point ℚ).y := rfl
  obtain ⟨hinterval, hcurve⟩ := cubic_slopes_exact (ε := Unit) hp hP hx hy
  refine ⟨hp, hP, decaySettings_checked, hinterval _ _ _ 3 (1 / 4) rfl rfl (by norm_num) rfl, ?_⟩
  refine hcurve decayCalculus _ (givenSlope fun x _ => x ^ 3) decayExact rfl ?_
    decayExact_describes decaySettings_checked
  intro x y
  rw [value_givenSlope, Polynomial.eval_pow, Polynomial.eval_X]

end Runs

end DirectionField.Proofs
