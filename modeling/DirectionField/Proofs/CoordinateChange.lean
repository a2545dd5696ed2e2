import DirectionField.Proofs.CurveSplice
import DirectionField.Proofs.RectangleRuns

/-!
# Affine changes of coordinates

Each coordinate is stretched and shifted, or turned round. In exact arithmetic every step of a
problem in the new coordinates is the image of a step of the old problem. So runs and curves are
images of each other; where the abscissa is turned round, left and right are exchanged.
-/

namespace DirectionField.Proofs

/-- New coordinates: each is an affine function of the old one and can be turned back into it. -/
structure AffineChange where
  xScale : ℚ
  xShift : ℚ
  yScale : ℚ
  yShift : ℚ
  xScale_ne : xScale ≠ 0
  yScale_ne : yScale ≠ 0

namespace AffineChange

variable (φ : AffineChange)

def apply (p : Point ℚ) : Point ℚ := ⟨φ.xScale * p.x + φ.xShift, φ.yScale * p.y + φ.yShift⟩

/-- The slopes as they are in the new coordinates. -/
def slopes (f : ℚ → ℚ → ℚ) (x y : ℚ) : ℚ :=
  φ.yScale / φ.xScale * f ((x - φ.xShift) / φ.xScale) ((y - φ.yShift) / φ.yScale)

/-- The rectangle and the width of a step in the new coordinates. The borders are exchanged where a
coordinate is turned round. -/
def settings (e : ExactSettings) : ExactSettings where
  xMin := min (φ.xScale * e.xMin + φ.xShift) (φ.xScale * e.xMax + φ.xShift)
  xMax := max (φ.xScale * e.xMin + φ.xShift) (φ.xScale * e.xMax + φ.xShift)
  yMin := min (φ.yScale * e.yMin + φ.yShift) (φ.yScale * e.yMax + φ.yShift)
  yMax := max (φ.yScale * e.yMin + φ.yShift) (φ.yScale * e.yMax + φ.yShift)
  step := |φ.xScale| * e.step
  maxSteps := e.maxSteps

/-- The direction in which the abscissa grows: kept or turned round. -/
def turn : ℤ := if 0 < φ.xScale then 1 else -1

lemma turn_cases : φ.turn = 1 ∨ φ.turn = -1 := by
  unfold turn
  split
  · exact .inl rfl
  · exact .inr rfl

lemma turn_mul_abs : (φ.turn : ℚ) * |φ.xScale| = φ.xScale := by
  unfold turn
  split
  · rename_i hpos
    rw [abs_of_pos hpos]
    simp
  · rename_i hneg
    rw [abs_of_nonpos (not_lt.mp hneg)]
    simp

/-! ## Steps -/

section Steps

variable (f : ℚ → ℚ → ℚ)

lemma slopes_image (x y : ℚ) :
    φ.slopes f (φ.xScale * x + φ.xShift) (φ.yScale * y + φ.yShift) =
      φ.yScale / φ.xScale * f x y := by
  rw [slopes, add_sub_cancel_right, add_sub_cancel_right, mul_div_cancel_left₀ _ φ.xScale_ne,
    mul_div_cancel_left₀ _ φ.yScale_ne]

/-- A step in the new coordinates, of the stretched width, leads to the new ordinate. -/
lemma next_image (x y h : ℚ) :
    (Stages.compute (φ.slopes f) (φ.xScale * x + φ.xShift) (φ.yScale * y + φ.yShift)
      (φ.xScale * h)).next = φ.yScale * (Stages.compute f x y h).next + φ.yShift := by
  have hincrement (x y : ℚ) :
      φ.xScale * h * φ.slopes f (φ.xScale * x + φ.xShift) (φ.yScale * y + φ.yShift) =
        φ.yScale * (h * f x y) := by
    rw [slopes_image]
    field_simp [φ.xScale_ne]
  have hmiddle : φ.xScale * x + φ.xShift + φ.xScale * h / 2 =
      φ.xScale * (x + h / 2) + φ.xShift := by ring
  have hend : φ.xScale * x + φ.xShift + φ.xScale * h = φ.xScale * (x + h) + φ.xShift := by ring
  have hhalf (k : ℚ) : φ.yScale * y + φ.yShift + φ.yScale * k / 2 =
      φ.yScale * (y + k / 2) + φ.yShift := by ring
  have hfull (k : ℚ) : φ.yScale * y + φ.yShift + φ.yScale * k =
      φ.yScale * (y + k) + φ.yShift := by ring
  simp only [Stages.compute, ofInt_rat, Int.cast_ofNat, hmiddle, hend, hincrement, hhalf, hfull]
  ring

variable (seed : Point ℚ) (h : ℚ)

lemma orbit_image (n : ℕ) :
    orbit (φ.slopes f) (φ.apply seed) (φ.xScale * h) n = φ.apply (orbit f seed h n) := by
  induction n with
  | zero => rfl
  | succ n ih =>
    rw [orbit, ih, orbit]
    apply congrArg₂ Point.mk
    · simp only [Run.abscissa, apply, ofInt_rat]
      ring
    · exact φ.next_image f _ _ h

lemma orbitUpTo_image (n : ℕ) :
    orbitUpTo (φ.slopes f) (φ.apply seed) (φ.xScale * h) n =
      (orbitUpTo f seed h n).map φ.apply := by
  unfold orbitUpTo
  rw [List.map_map]
  exact List.map_congr_left fun k _ => φ.orbit_image f seed h k

end Steps

/-! ## Rectangles -/

section Rectangles

lemma between_image_iff {a b u v x : ℚ} (ha : a ≠ 0) (huv : u ≤ v) :
    min (a * u + b) (a * v + b) ≤ a * x + b ∧ a * x + b ≤ max (a * u + b) (a * v + b) ↔
      u ≤ x ∧ x ≤ v := by
  rcases lt_or_gt_of_ne ha with hneg | hpos
  · have hvu : a * v + b ≤ a * u + b := by linarith [mul_le_mul_of_nonpos_left huv hneg.le]
    rw [min_eq_right hvu, max_eq_left hvu, add_le_add_iff_right, add_le_add_iff_right,
      mul_le_mul_left_of_neg hneg, mul_le_mul_left_of_neg hneg, and_comm]
  · have huv' : a * u + b ≤ a * v + b := by linarith [mul_le_mul_of_nonneg_left huv hpos.le]
    rw [min_eq_left huv', max_eq_right huv', add_le_add_iff_right, add_le_add_iff_right,
      mul_le_mul_iff_right₀ hpos, mul_le_mul_iff_right₀ hpos]

variable {e : ExactSettings}

lemma contains_image_iff (hx : e.xMin ≤ e.xMax) (hy : e.yMin ≤ e.yMax) (p : Point ℚ) :
    (φ.settings e).Contains (φ.apply p) ↔ e.Contains p := by
  have hxs := between_image_iff (b := φ.xShift) (x := p.x) φ.xScale_ne hx
  have hys := between_image_iff (b := φ.yShift) (x := p.y) φ.yScale_ne hy
  exact and_assoc.symm.trans ((and_congr hxs hys).trans and_assoc)

lemma min_lt_max_image {a b u v : ℚ} (ha : a ≠ 0) (huv : u < v) :
    min (a * u + b) (a * v + b) < max (a * u + b) (a * v + b) := by
  rw [min_lt_max, Ne, add_left_inj, mul_right_inj' ha]
  exact huv.ne

/-- Settings that pass their checks do so in the new coordinates. -/
lemma checked_image {s t : Settings ℚ} (he : e.Describes s) (he' : (φ.settings e).Describes t)
    (hvalid : s.checked = .ok s) : t.checked = .ok t := by
  obtain ⟨hx, hy, hstep, hlimit⟩ := he.checked_iff.mp hvalid
  exact he'.checked_iff.mpr ⟨min_lt_max_image φ.xScale_ne hx, min_lt_max_image φ.yScale_ne hy,
    mul_pos (abs_pos.mpr φ.xScale_ne) hstep, hlimit⟩

end Rectangles

/-! ## Runs -/

section Runs

variable {f : ℚ → ℚ → ℚ} {e : ExactSettings} {s t : Settings ℚ} {seed : Point ℚ}

lemma turn_mul_cases {d : ℤ} (hd : d = 1 ∨ d = -1) : φ.turn * d = 1 ∨ φ.turn * d = -1 := by
  rcases φ.turn_cases with hturn | hturn <;> rcases hd with rfl | rfl <;> simp [hturn]

lemma signedWidth_image (d : ℤ) (w : ℚ) :
    signedWidth (φ.turn * d) (|φ.xScale| * w) = φ.xScale * signedWidth d w := by
  simp only [signedWidth, ofInt_rat, abs_rat, abs_mul, abs_abs]
  push_cast
  linear_combination d * |w| * φ.turn_mul_abs

lemma admittedIn_image_iff (he : e.Describes s) (he' : (φ.settings e).Describes t)
    (hvalid : s.checked = .ok s) (w : ℚ) (n : ℕ) :
    AdmittedIn (φ.slopes f) (regionOf t) (φ.apply seed) (φ.xScale * w) n ↔
      AdmittedIn f (regionOf s) seed w n := by
  obtain ⟨hx, hy, -, -⟩ := he.checked_iff.mp hvalid
  rw [he'.admittedIn_iff, he.admittedIn_iff, orbit_image, φ.contains_image_iff hx.le hy.le]

variable {x₀ y₀ x₀' y₀' h h' maxSteps maxSteps' : Datum ℚ} {w : ℚ} {limit : ℕ}

/-- A run in the new coordinates goes over the images of the points of a run, to the other side of
its seed where the abscissa is turned round. -/
lemma box_image (he : e.Describes s) (he' : (φ.settings e).Describes t)
    (hvalid : s.checked = .ok s) (hx : x₀.toNumber = .ok seed.x) (hy : y₀.toNumber = .ok seed.y)
    (hx' : x₀'.toNumber = .ok (φ.apply seed).x) (hy' : y₀'.toNumber = .ok (φ.apply seed).y)
    (hw : h.toNumber = .ok w) (hw' : h'.toNumber = .ok (|φ.xScale| * w))
    (hlimit : boxLimit s maxSteps = .ok limit) (hlimit' : boxLimit t maxSteps' = .ok limit)
    {d : ℤ} (hd : d = 1 ∨ d = -1) :
    ∃ r r', Run.box f x₀ y₀ h s (.whole d) maxSteps = .ok r ∧
      Run.box (φ.slopes f) x₀' y₀' h' t (.whole (φ.turn * d)) maxSteps' = .ok r' ∧
      r'.points = r.points.map φ.apply := by
  have hd' := φ.turn_mul_cases hd
  obtain ⟨r, hr⟩ := box_returns (f := f) he.hasBorders hd hx hy hw hlimit
  obtain ⟨r', hr'⟩ := box_returns (f := φ.slopes f) he'.hasBorders hd' hx' hy' hw' hlimit'
  obtain ⟨n, hpoints, hn⟩ := box_extent_of_numbers hd hx hy hw hlimit hr
  obtain ⟨n', hpoints', hn'⟩ := box_extent_of_numbers hd' hx' hy' hw' hlimit' hr'
  rw [signedWidth_image] at hn' hpoints'
  have hsteps : n' = n :=
    (hn'.congr (φ.admittedIn_image_iff he he' hvalid _)).isGreatest.unique hn.isGreatest
  refine ⟨r, r', hr, hr', ?_⟩
  rw [hpoints', hpoints, hsteps, orbitUpTo_image]

end Runs

/-! ## Curves -/

section Curves

variable {f : ℚ → ℚ → ℚ} {e : ExactSettings} {seed : Point ℚ}

lemma orbitBetween_image (h : ℚ) (m n : ℕ) :
    orbitBetween (φ.slopes f) (φ.apply seed) (φ.xScale * h) m n =
      (orbitBetween f seed h m n).map φ.apply := by
  unfold orbitBetween
  rw [List.map_map]
  refine List.map_congr_left fun i _ => ?_
  obtain ⟨k, hk | hk⟩ := ((i : ℤ) - m).eq_nat_or_neg
  · rw [Function.comp_apply, hk, signedOrbit_natCast, signedOrbit_natCast, orbit_image]
  · rw [Function.comp_apply, hk, signedOrbit_neg, signedOrbit_neg, ← mul_neg, orbit_image]

lemma extent_image (hx : e.xMin ≤ e.xMax) (hy : e.yMin ≤ e.yMax) {h : ℚ} {limit n n' : ℕ}
    (hn : Extent (fun k => e.Contains (orbit f seed h (k + 1))) limit n)
    (hn' : Extent (fun k => (φ.settings e).Contains
      (orbit (φ.slopes f) (φ.apply seed) (φ.xScale * h) (k + 1))) limit n') : n' = n := by
  refine (hn'.congr ?_).isGreatest.unique hn.isGreatest
  intro k
  rw [orbit_image, φ.contains_image_iff hx hy]

/-- The points of a curve are the images of those of another. Both go from left to right, so the
order is reversed where the abscissa is turned round. -/
structure IsImage (c c' : Curve ℚ) : Prop where
  seed_eq : c'.seed = φ.apply c.seed
  points_of_pos : 0 < φ.xScale → c'.points = c.points.map φ.apply
  seedIndex_of_pos : 0 < φ.xScale → c'.seedIndex = c.seedIndex
  points_of_neg : φ.xScale < 0 → c'.points = (c.points.map φ.apply).reverse
  seedIndex_of_neg : φ.xScale < 0 → (c'.seedIndex : ℤ) = c.size - 1 - c.seedIndex

variable {c c' : Curve ℚ} {m n m' n' : ℕ}

lemma isImage_of_followsOrbit (hx : e.xMin ≤ e.xMax) (hy : e.yMin ≤ e.yMax)
    (hc : FollowsOrbit e f seed c m n)
    (hc' : FollowsOrbit (φ.settings e) (φ.slopes f) (φ.apply seed) c' m' n') :
    φ.IsImage c c' := by
  have hseed : c'.seed = φ.apply c.seed := by rw [hc'.seed_eq, hc.seed_eq]
  have hleft := hc'.left
  have hright := hc'.right
  have hpoints := hc'.points_eq
  dsimp only [settings] at hleft hright hpoints
  rcases lt_or_gt_of_ne φ.xScale_ne with hneg | hpos
  · -- what lies to the left of one seed is the image of what lies to the right of the other
    rw [abs_of_neg hneg, neg_mul, neg_neg] at hleft
    rw [abs_of_neg hneg, neg_mul, ← mul_neg] at hright hpoints
    obtain rfl : m' = n := φ.extent_image hx hy hc.right hleft
    obtain rfl : n' = m := φ.extent_image hx hy hc.left hright
    refine ⟨hseed, fun h => absurd h hneg.not_gt, fun h => absurd h hneg.not_gt, fun _ => ?_,
      fun _ => ?_⟩
    · rw [hpoints, orbitBetween_image, ← reverse_orbitBetween, ← hc.points_eq, List.map_reverse]
    · rw [hc'.seedIndex_eq, hc.seedIndex_eq, Curve.size, hc.points_eq, length_orbitBetween]
      omega
  · rw [abs_of_pos hpos, ← mul_neg] at hleft
    rw [abs_of_pos hpos] at hright hpoints
    obtain rfl : m' = m := φ.extent_image hx hy hc.left hleft
    obtain rfl : n' = n := φ.extent_image hx hy hc.right hright
    refine ⟨hseed, fun _ => ?_, fun _ => ?_, fun h => absurd h hpos.not_gt,
      fun h => absurd h hpos.not_gt⟩
    · rw [hpoints, orbitBetween_image, hc.points_eq]
    · rw [hc'.seedIndex_eq, hc.seedIndex_eq]

end Curves

end AffineChange

section Sessions

variable {x₀ y₀ x₀' y₀' : Datum ℚ} {seed : Point ℚ} {e : ExactSettings}

/-- In exact arithmetic, when the slopes, the settings and the seed are brought to new coordinates,
the settings pass their checks again and the curve of the seed is the image of the old one. So is
each run in the rectangle; where the abscissa is turned round, the run to the left is the image of
the one to the right. -/
theorem addCurve_image {ε ε' : Type} (φ : AffineChange) (C : Calculus ε ℚ) (C' : Calculus ε' ℚ)
    (s t : Field ℚ) {f g : Slope ℚ} (hf : (s.ensureCompiled C).result = .ok f)
    (hg : (t.ensureCompiled C').result = .ok g) (hslopes : g.value = φ.slopes f.value)
    (he : e.Describes s.settings) (he' : (φ.settings e).Describes t.settings)
    (hvalid : s.settings.checked = .ok s.settings)
    (hx : x₀.toNumber = .ok seed.x) (hy : y₀.toNumber = .ok seed.y)
    (hx' : x₀'.toNumber = .ok (φ.apply seed).x) (hy' : y₀'.toNumber = .ok (φ.apply seed).y) :
    t.settings.checked = .ok t.settings ∧
    (∃ c c', (s.addCurve C x₀ y₀).result = .ok c ∧ (t.addCurve C' x₀' y₀').result = .ok c' ∧
      φ.IsImage c c') ∧
    ∀ d : ℤ, (d = 1 ∨ d = -1) → ∀ (maxSteps : Datum ℚ) (M : ℤ),
      AsksFor s.settings maxSteps M → AsksFor t.settings maxSteps M →
      ∃ r r', Run.box f.value x₀ y₀ s.settings.step s.settings (.whole d) maxSteps = .ok r ∧
        Run.box g.value x₀' y₀' t.settings.step t.settings (.whole (φ.turn * d)) maxSteps =
          .ok r' ∧
        r'.points = r.points.map φ.apply := by
  have hvalid' := φ.checked_image he he' hvalid
  obtain ⟨hxs, hys, -, -⟩ := he.checked_iff.mp hvalid
  refine ⟨hvalid', ?_, ?_⟩
  · obtain ⟨c, m, n, hc, -, hfollows⟩ := addCurve_followsOrbit C s hf he hvalid hx hy
    obtain ⟨c', m', n', hc', -, hfollows'⟩ := addCurve_followsOrbit C' t hg he' hvalid' hx' hy'
    rw [hslopes] at hfollows'
    exact ⟨c, c', hc, hc', φ.isImage_of_followsOrbit hxs.le hys.le hfollows hfollows'⟩
  · intro d hd maxSteps M hM hM'
    rw [hslopes]
    exact φ.box_image he he' hvalid hx hy hx' hy' he.step.toNumber he'.step.toNumber hM.boxLimit
      hM'.boxLimit hd

end Sessions

/-! ## The field of decay, turned round -/

/-- The abscissa turned round and doubled, the ordinate tripled. -/
def turnedRound : AffineChange := ⟨-2, 1, 3, -1, by norm_num, by norm_num⟩

def turnedSettings : Settings ℚ :=
  ⟨.whole (-1), .whole 3, .whole (-1), .whole 11, .whole 1, .whole 3⟩

def turnedField : Field ℚ := givenField (turnedRound.slopes decaySlope.value) turnedSettings

lemma turnedSettings_described : (turnedRound.settings decayExact).Describes turnedSettings := by
  constructor <;>
    norm_num [AffineChange.settings, turnedRound, decayExact, turnedSettings, HasValue,
      Datum.exactValue?, Datum.whole?]

theorem addCurve_image_turnedRound :
    decaySettings.checked = .ok decaySettings ∧ turnedSettings.checked = .ok turnedSettings ∧
    (∃ c c', (decayField.addCurve decayCalculus (.whole 0) (.whole 1)).result = .ok c ∧
      (turnedField.addCurve decayCalculus (.whole 1) (.whole 2)).result = .ok c' ∧
      turnedRound.IsImage c c') ∧
    ∃ r r', Run.box decaySlope.value (.whole 0) (.whole 1) decaySettings.step decaySettings
        (.whole 1) (.whole 2) = .ok r ∧
      Run.box (turnedRound.slopes decaySlope.value) (.whole 1) (.whole 2) turnedSettings.step
        turnedSettings (.whole (-1)) (.whole 2) = .ok r' ∧
      r'.points = r.points.map turnedRound.apply := by
  have hx : (Datum.whole 0 : Datum ℚ).toNumber = .ok (⟨0, 1⟩ : Point ℚ).x := rfl
  have hy : (Datum.whole 1 : Datum ℚ).toNumber = .ok (⟨0, 1⟩ : Point ℚ).y := rfl
  have hx' : (Datum.whole 1 : Datum ℚ).toNumber = .ok (turnedRound.apply ⟨0, 1⟩).x := by
    norm_num [turnedRound, AffineChange.apply, Datum.toNumber, Datum.whole?, Numeral.ofInt?]
  have hy' : (Datum.whole 2 : Datum ℚ).toNumber = .ok (turnedRound.apply ⟨0, 1⟩).y := by
    norm_num [turnedRound, AffineChange.apply, Datum.toNumber, Datum.whole?, Numeral.ofInt?]
  obtain ⟨hvalid', hcurves, hruns⟩ :=
    addCurve_image turnedRound decayCalculus decayCalculus decayField turnedField rfl rfl
      (value_givenSlope _) decayExact_describes turnedSettings_described
      decaySettings_checked hx hy hx' hy'
  have hturn : turnedRound.turn = -1 := by norm_num [turnedRound, AffineChange.turn]
  obtain ⟨r, r', hr, hr', hpoints⟩ := hruns 1 (.inl rfl) (.whole 2) 2 rfl rfl
  rw [hturn] at hr'
  exact ⟨decaySettings_checked, hvalid', hcurves, r, r', hr, hr', hpoints⟩

end DirectionField.Proofs
