import DirectionField.Proofs.CubicSlopes

/-!
# Curves between the bounds of their slopes

A step goes its width times a weighted mean of four slopes, to the right as to the left. In exact
arithmetic the secant through any two points of a trajectory or a curve is as steep as a mean of
slopes, so it keeps all bounds that the slopes have.
-/

namespace DirectionField.Proofs

/-- The number keeps every bound that the slopes have, from below and from above. -/
structure KeepsBounds (f : ℚ → ℚ → ℚ) (s : ℚ) : Prop where
  lower : ∀ m, (∀ x y, m ≤ f x y) → m ≤ s
  upper : ∀ M, (∀ x y, f x y ≤ M) → s ≤ M

/-! ## Steps -/

section Steps

variable {f : ℚ → ℚ → ℚ} {seed : Point ℚ} {h : ℚ}

lemma keepsBounds_slope (x y : ℚ) : KeepsBounds f (f x y) :=
  ⟨fun _ hm => hm x y, fun _ hM => hM x y⟩

/-- A weighted mean of numbers that keep the bounds keeps them. -/
lemma KeepsBounds.mean {s t a b : ℚ} (hs : KeepsBounds f s) (ht : KeepsBounds f t) (ha : 0 ≤ a)
    (hb : 0 ≤ b) (hab : a + b = 1) : KeepsBounds f (a * s + b * t) := by
  constructor
  · intro m hm
    have hsm := mul_le_mul_of_nonneg_left (hs.lower m hm) ha
    have htm := mul_le_mul_of_nonneg_left (ht.lower m hm) hb
    calc m = a * m + b * m := by rw [← add_mul, hab, one_mul]
      _ ≤ a * s + b * t := add_le_add hsm htm
  · intro M hM
    have hsM := mul_le_mul_of_nonneg_left (hs.upper M hM) ha
    have htM := mul_le_mul_of_nonneg_left (ht.upper M hM) hb
    calc a * s + b * t ≤ a * M + b * M := add_le_add hsM htM
      _ = M := by rw [← add_mul, hab, one_mul]

/-- The slope that a step follows: the middle slopes count twice. -/
lemma exists_stepSlope (f : ℚ → ℚ → ℚ) (x y h : ℚ) :
    ∃ s, KeepsBounds f s ∧ (Stages.compute f x y h).next = y + h * s := by
  set s1 := f x y with hs1
  set s2 := f (x + h / 2) (y + h * s1 / 2) with hs2
  set s3 := f (x + h / 2) (y + h * s2 / 2) with hs3
  set s4 := f (x + h) (y + h * s3) with hs4
  have houter : KeepsBounds f (1 / 2 * s1 + 1 / 2 * s4) :=
    (keepsBounds_slope _ _).mean (keepsBounds_slope _ _) (by norm_num) (by norm_num) (by norm_num)
  have hinner : KeepsBounds f (1 / 2 * s2 + 1 / 2 * s3) :=
    (keepsBounds_slope _ _).mean (keepsBounds_slope _ _) (by norm_num) (by norm_num) (by norm_num)
  refine ⟨_, houter.mean hinner (a := 1 / 3) (b := 2 / 3) (by norm_num) (by norm_num)
    (by norm_num), ?_⟩
  have hnext : (Stages.compute f x y h).next =
      y + (h * s1 + 2 * (h * s2) + 2 * (h * s3) + h * s4) / 6 := by
    simp only [Stages.compute, ofInt_rat, hs1, hs2, hs3, hs4]
    norm_cast
  rw [hnext]
  ring

variable (f seed h) in
/-- From left to right a step goes its width times a mean slope, on both sides of the seed: a step
to the left comes back from its end to its start. -/
lemma exists_signedStepSlope (k : ℤ) :
    ∃ s, KeepsBounds f s ∧
      (signedOrbit f seed h (k + 1)).y = (signedOrbit f seed h k).y + h * s := by
  cases k with
  | ofNat n => exact exists_stepSlope f _ _ h
  | negSucc n =>
    have hk : Int.negSucc n + 1 = -(n : ℤ) := by omega
    obtain ⟨s, hs, hnext⟩ := exists_stepSlope f (orbit f seed (-h) n).x (orbit f seed (-h) n).y (-h)
    refine ⟨s, hs, ?_⟩
    rw [hk, signedOrbit_neg]
    change _ = (Stages.compute f _ _ (-h)).next + h * s
    rw [hnext]
    ring

variable (f seed h) in
/-- The secant over `n` steps, whose slope is the mean of those of its steps. -/
lemma exists_secantSlope (j : ℤ) (n : ℕ) :
    ∃ s, KeepsBounds f s ∧
      (signedOrbit f seed h (j + n)).y = (signedOrbit f seed h j).y + n * h * s := by
  induction n with
  | zero => exact ⟨_, keepsBounds_slope 0 0, by simp⟩
  | succ n ih =>
    obtain ⟨s, hs, hsecant⟩ := ih
    obtain ⟨t, ht, hstep⟩ := exists_signedStepSlope f seed h (j + n)
    have hn : (0 : ℚ) < n + 1 := by positivity
    refine ⟨n / (n + 1) * s + 1 / (n + 1) * t,
      hs.mean ht (by positivity) (by positivity) (by field_simp), ?_⟩
    have hlast : j + ((n + 1 : ℕ) : ℤ) = j + n + 1 := by push_cast; ring
    rw [hlast, hstep, hsecant]
    push_cast
    field_simp
    ring

/-- The ordinates of two points differ by the distance of their abscissae times a slope that keeps
the bounds. -/
def HasSecant (f : ℚ → ℚ → ℚ) (p q : Point ℚ) : Prop :=
  ∃ s, KeepsBounds f s ∧ q.y - p.y = s * (q.x - p.x)

lemma orbitBetween_hasSecant (m n : ℕ) :
    (orbitBetween f seed h m n).Pairwise (HasSecant f) := by
  unfold orbitBetween
  rw [List.pairwise_map]
  refine List.pairwise_lt_range.imp ?_
  intro i j hij
  obtain ⟨k, rfl⟩ := Nat.exists_eq_add_of_le hij.le
  obtain ⟨s, hs, hsecant⟩ := exists_secantSlope f seed h (i - m) k
  refine ⟨s, hs, ?_⟩
  have hk : ((i + k : ℕ) : ℤ) - m = (i : ℤ) - m + k := by push_cast; ring
  rw [hk, hsecant, signedOrbit_x, signedOrbit_x]
  push_cast
  ring

lemma orbitBetween_zero (n : ℕ) : orbitBetween f seed h 0 n = orbitUpTo f seed h n := by
  simp [orbitBetween, orbitUpTo, signedOrbit_natCast]

end Steps

/-! ## Trajectories and curves -/

/-- Points from left to right that keep to the slopes: bounds of the slopes bound the rise between
any two of them, so where no slope is negative or none is positive they are monotone, and on
constant slopes they lie on a straight line. -/
structure KeepsToSlopes (f : ℚ → ℚ → ℚ) (points : List (Point ℚ)) : Prop where
  rightwards : points.Pairwise fun p q => p.x < q.x
  between : ∀ m M, (∀ x y, m ≤ f x y ∧ f x y ≤ M) → points.Pairwise fun p q =>
    m * (q.x - p.x) ≤ q.y - p.y ∧ q.y - p.y ≤ M * (q.x - p.x)
  rises : (∀ x y, 0 ≤ f x y) → points.Pairwise fun p q => p.y ≤ q.y
  falls : (∀ x y, f x y ≤ 0) → points.Pairwise fun p q => q.y ≤ p.y
  straight : ∀ c, (∀ x y, f x y = c) → ∀ p ∈ points, ∀ q ∈ points, q.y - p.y = c * (q.x - p.x)

section Points

variable {f : ℚ → ℚ → ℚ} {points : List (Point ℚ)}

section Secants

variable (hx : points.Pairwise fun p q => p.x < q.x) (hsecants : points.Pairwise (HasSecant f))
include hx hsecants

lemma rise_ge_of_secants {m : ℚ} (hf : ∀ x y, m ≤ f x y) :
    points.Pairwise fun p q => m * (q.x - p.x) ≤ q.y - p.y := by
  refine (hx.and hsecants).imp ?_
  rintro p q ⟨hlt, s, hs, hsecant⟩
  rw [hsecant]
  exact mul_le_mul_of_nonneg_right (hs.lower m hf) (sub_nonneg.mpr hlt.le)

lemma rise_le_of_secants {M : ℚ} (hf : ∀ x y, f x y ≤ M) :
    points.Pairwise fun p q => q.y - p.y ≤ M * (q.x - p.x) := by
  refine (hx.and hsecants).imp ?_
  rintro p q ⟨hlt, s, hs, hsecant⟩
  rw [hsecant]
  exact mul_le_mul_of_nonneg_right (hs.upper M hf) (sub_nonneg.mpr hlt.le)

lemma keepsToSlopes_of_secants : KeepsToSlopes f points := by
  have hbetween : ∀ m M, (∀ x y, m ≤ f x y ∧ f x y ≤ M) → points.Pairwise fun p q =>
      m * (q.x - p.x) ≤ q.y - p.y ∧ q.y - p.y ≤ M * (q.x - p.x) := by
    intro m M hf
    exact (rise_ge_of_secants hx hsecants fun x y => (hf x y).1).and
      (rise_le_of_secants hx hsecants fun x y => (hf x y).2)
  constructor
  case rightwards => exact hx
  case between => exact hbetween
  case rises =>
    intro hf
    refine (rise_ge_of_secants hx hsecants hf).imp ?_
    intro p q hle
    linarith
  case falls =>
    intro hf
    refine (rise_le_of_secants hx hsecants hf).imp ?_
    intro p q hle
    linarith
  case straight =>
    intro c hf
    have hline : points.Pairwise fun p q => q.y - p.y = c * (q.x - p.x) := by
      refine (hbetween c c fun x y => ⟨(hf x y).ge, (hf x y).le⟩).imp ?_
      rintro p q ⟨hge, hle⟩
      exact le_antisymm hle hge
    have hback : points.Pairwise (flip fun p q => q.y - p.y = c * (q.x - p.x)) := by
      refine hline.imp ?_
      intro p q hpq
      simp only [flip]
      linarith
    exact fun p hp q hq => hline.forall_of_forall_of_flip (fun p _ => by ring) hback hp hq

end Secants

variable {x₀ y₀ : Datum ℚ} {seed : Point ℚ} {h : ℚ}

lemma keepsToSlopes_orbitBetween (hpos : 0 < h) (m n : ℕ) :
    KeepsToSlopes f (orbitBetween f seed h m n) :=
  keepsToSlopes_of_secants (orbitBetween_increasing hpos m n) (orbitBetween_hasSecant m n)

/-- In exact arithmetic every run over an interval and every curve, on both sides of its seed, keeps
to its slopes. -/
theorem points_keep_to_slopes {ε : Type} (hx : x₀.toNumber = .ok seed.x)
    (hy : y₀.toNumber = .ok seed.y) :
    (∀ (f : ℚ → ℚ → ℚ) (xEnd h ceiling : Datum ℚ) (e w : ℚ), xEnd.toNumber = .ok e →
      HasValue h w → 0 < w → ceiling.isNumber = true →
      ∃ r, Run.interval f x₀ y₀ xEnd h ceiling = .ok r ∧ KeepsToSlopes f r.points) ∧
    ∀ (C : Calculus ε ℚ) (s : Field ℚ) (g : Slope ℚ) (e : ExactSettings),
      (s.ensureCompiled C).result = .ok g → e.Describes s.settings →
      s.settings.checked = .ok s.settings →
      ∃ c, (s.addCurve C x₀ y₀).result = .ok c ∧ KeepsToSlopes g.value c.points := by
  constructor
  · intro f xEnd h ceiling e w he hw hpos hc
    obtain ⟨r, hr⟩ := interval_returns_of_isNumber f hx hy he hw hpos hc
    obtain ⟨n, hpoints⟩ := points_of_interval hx hy hw.toNumber hr
    refine ⟨r, hr, ?_⟩
    rw [hpoints, ← orbitBetween_zero]
    exact keepsToSlopes_orbitBetween hpos 0 n
  · intro C s g e hg he hvalid
    obtain ⟨-, -, hpos, -⟩ := he.checked_iff.mp hvalid
    obtain ⟨c, m, n, hresult, -, hc⟩ := addCurve_followsOrbit C s hg he hvalid hx hy
    refine ⟨c, hresult, ?_⟩
    rw [hc.points_eq]
    exact keepsToSlopes_orbitBetween hpos m n

/-- Slopes that are never positive, over an interval, and slopes from zero to one in a session. -/
theorem points_keep_to_slopes_signed :
    decaySettings.checked = .ok decaySettings ∧
    (∃ r, Run.interval (fun _ y : ℚ => -|y|) (.whole 0) (.whole 1) (.whole 2) (.real (1 / 2))
        (.whole 6) = .ok r ∧
      r.points.Pairwise fun p q => q.y ≤ p.y) ∧
    ∃ c, ((givenField (fun _ y => 1 / (1 + y ^ 2)) decaySettings).addCurve decayCalculus (.whole 0)
        (.whole 1)).result = .ok c ∧
      c.points.Pairwise fun p q => 0 * (q.x - p.x) ≤ q.y - p.y ∧ q.y - p.y ≤ 1 * (q.x - p.x) := by
  have hx : (Datum.whole 0 : Datum ℚ).toNumber = .ok (⟨0, 1⟩ : Point ℚ).x := rfl
  have hy : (Datum.whole 1 : Datum ℚ).toNumber = .ok (⟨0, 1⟩ : Point ℚ).y := rfl
  obtain ⟨hinterval, hcurve⟩ := points_keep_to_slopes (ε := Unit) hx hy
  obtain ⟨r, hr, hfalls⟩ := hinterval (fun _ y => -|y|) (.whole 2) (.real (1 / 2)) (.whole 6) 2
    (1 / 2) rfl rfl (by norm_num) rfl
  obtain ⟨c, hc, hbetween⟩ := hcurve decayCalculus
    (givenField (fun _ y => 1 / (1 + y ^ 2)) decaySettings) _ decayExact rfl decayExact_describes
    decaySettings_checked
  refine ⟨decaySettings_checked, ⟨r, hr, hfalls.falls fun _ y => by simp⟩, c, hc, ?_⟩
  refine hbetween.between 0 1 fun x y => ?_
  rw [value_givenSlope]
  have hden : 1 ≤ 1 + y ^ 2 := by nlinarith [sq_nonneg y]
  exact ⟨by positivity, div_le_one_of_le₀ hden (by positivity)⟩

end Points

end DirectionField.Proofs
