import DirectionField.Proofs.CompileFaults
import DirectionField.Proofs.Doubles
import DirectionField.Proofs.ExtendedRational
import DirectionField.Proofs.FieldOperations
import DirectionField.Proofs.FinitePoints
import DirectionField.Proofs.Samples

/-!
# Total slopes

A slope is a finite number at every point, whatever the computation of its equation gives there. It
is the raw slope but for two reasons to be flat: there is no finite raw slope, or the text divides
by a coordinate that is nearly zero. So curves follow the samples of their field except for the
second reason, and no slope ends an exact run in a rectangle.
-/

namespace DirectionField.Proofs

/-- The slope functions of an equation: what it compiles to, and the flat ones in its place. -/
inductive IsSlopeOf {α : Type} [Arithmetic α] (raw : Option String) : Slope α → Prop
  | compiled {ε : Type} (C : Calculus ε α) (f : Slope α) (hc : C.compile raw = .ok f) :
      IsSlopeOf raw f
  | flat (message : String) : IsSlopeOf raw (.flat raw message)

lemma IsSlopeOf.body {α : Type} [Arithmetic α] {raw : Option String} {f : Slope α}
    (hf : IsSlopeOf raw f) : f.body = Equation.body raw := by
  cases hf with
  | compiled C f hc =>
    obtain ⟨-, e, compute, -, -, rfl⟩ := compile_ok_iff.mp hc
    rfl
  | flat message => rfl

/-! ## Coordinates that a text divides by -/

lemma dividesBy_go_iff (c : Char) (cs : List Char) :
    Slope.dividesBy.go c cs = true ↔ ['/', c] <:+: cs := by
  fun_induction Slope.dividesBy.go c cs with
  | case1 d r ih =>
    rw [List.infix_cons_iff, List.cons_prefix_cons, List.cons_prefix_cons, Bool.or_eq_true, ih,
      beq_iff_eq]
    simp [eq_comm]
  | case2 a r hslash ih =>
    have hprefix : ¬ ['/', c] <+: a :: r := by
      rintro ⟨t, ht⟩
      obtain ⟨rfl, rfl⟩ := List.cons.inj ht
      exact hslash c t rfl rfl
    rw [List.infix_cons_iff, ih, or_iff_right hprefix]
  | case3 => simp

lemma dividesBy_iff (c : Char) (body : String) :
    Slope.dividesBy c body = true ↔ ['/', c] <:+: body.toList :=
  dividesBy_go_iff c body.toList

/-- The number is less than `10⁻¹⁰` in size. -/
def IsNearZero (x : Float) : Prop := ∃ q : ℚ, Numeral.exact x = .finite q ∧ |q| < 1 / 10 ^ 10

/-- Somewhere in the text is a slash with a coordinate behind it that is nearly zero. -/
def DividesByNearZero (body : String) (x y : Float) : Prop :=
  (['/', 'y'] <:+: body.toList ∧ IsNearZero y) ∨ (['/', 'x'] <:+: body.toList ∧ IsNearZero x)

lemma exact_poleWidth : Numeral.exact (Slope.poleWidth : Float) =
    .finite ((7737125245533626 + 1 : ℕ) * 2 ^ (-86 : ℤ)) := by
  have hparts : (Slope.poleWidth : Float).toModel.unpack =
      .finite .positive 7737125245533627 (-86) (by decide) := rfl
  rw [exact_double, hparts]
  rfl

lemma lt_poleWidth_iff (x : Float) :
    Arithmetic.lt (Arithmetic.abs x) Slope.poleWidth = true ↔ IsNearZero x :=
  abs_lt_double_iff (by constructor <;> norm_num) (by constructor <;> norm_num) (by norm_num)
    (by norm_num) exact_poleWidth x

lemma isNearPole_iff (f : Slope Float) (x y : Float) :
    f.isNearPole x y = true ↔ DividesByNearZero f.body x y := by
  simp only [Slope.isNearPole, Bool.or_eq_true, Bool.and_eq_true, dividesBy_iff, lt_poleWidth_iff,
    DividesByNearZero]

lemma value_of_not_near {f : Slope Float} {x y : Float} (h : ¬ DividesByNearZero f.body x y) :
    f.value x y =
      if Arithmetic.isFinite (f.evaluate x y) then f.evaluate x y else Slope.flatSlope := by
  rw [Slope.value, if_neg ((isNearPole_iff f x y).not.mpr h)]

/-! ## Slopes at a point -/

/-- The real number that a computation gives: that of a complex number, too, unless its imaginary
part has a size. -/
inductive GivesReal : Outcome Float → Float → Prop
  | real (v : Float) : GivesReal (.real v) v
  | complex (re im : Float) (him : Numeral.exact im = .finite 0 ∨ Numeral.exact im = .undefined) :
      GivesReal (.complex re im) re

/-- What the slope of an equation is at a point. -/
structure TotalAt (f : Slope Float) (x y : Float) : Prop where
  finite : ∃ q, Numeral.exact (f.value x y) = .finite q
  guarded : DividesByNearZero f.body x y → f.value x y = 0
  raw : ¬ DividesByNearZero f.body x y → Arithmetic.isFinite (f.evaluate x y) = true →
    f.value x y = f.evaluate x y
  gap : ¬ DividesByNearZero f.body x y → Arithmetic.isFinite (f.evaluate x y) = false →
    f.value x y = 0
  outcome : ∀ v, Arithmetic.isFinite v = true →
    (f.evaluate x y = v ↔ GivesReal (f.compute x y) v)

lemma exact_arithmetic_undefined : Numeral.exact (Arithmetic.undefined : Float) = .undefined := by
  decide +kernel

section Outcomes

variable {o : Outcome Float} {v : Float}

lemma realValue_of_givesReal (h : GivesReal o v) : Slope.realValue o = v := by
  cases h with
  | real => rfl
  | complex _ im him =>
    have hsize : ¬ Arithmetic.lt Slope.flatSlope (Arithmetic.abs im) = true :=
      (zero_lt_abs_double_iff im).not.mpr (not_not.mpr him)
    exact if_neg hsize

lemma realValue_of_not_givesReal (h : ∀ v, ¬ GivesReal o v) :
    Slope.realValue o = Arithmetic.undefined := by
  cases o with
  | real v => exact absurd (.real v) (h v)
  | complex re im =>
    have hsize : Arithmetic.lt Slope.flatSlope (Arithmetic.abs im) = true :=
      (zero_lt_abs_double_iff im).mpr fun him => h re (.complex re im him)
    exact if_pos hsize
  | refused => rfl

lemma realValue_eq_iff (hv : Numeral.exact v ≠ .undefined) :
    Slope.realValue o = v ↔ GivesReal o v := by
  refine ⟨?_, realValue_of_givesReal⟩
  rintro rfl
  by_contra hno
  have hnone (w : Float) : ¬ GivesReal o w := by
    intro hw
    rw [realValue_of_givesReal hw] at hno
    exact hno hw
  rw [realValue_of_not_givesReal hnone] at hv
  exact hv exact_arithmetic_undefined

end Outcomes

lemma totalAt (f : Slope Float) (x y : Float) : TotalAt f x y := by
  have hzero : (Slope.flatSlope : Float) = 0 := rfl
  constructor
  case finite => exact (isFinite_double_iff _).mp (isFinite_value f x y)
  case guarded =>
    intro hnear
    rw [Slope.value, if_pos ((isNearPole_iff f x y).mpr hnear), hzero]
  case raw =>
    intro hnear hfinite
    rw [value_of_not_near hnear, if_pos hfinite]
  case gap =>
    intro hnear hgap
    rw [value_of_not_near hnear, if_neg (Bool.eq_false_iff.mp hgap), hzero]
  case outcome =>
    intro v hv
    obtain ⟨q, hq⟩ := (isFinite_double_iff v).mp hv
    exact realValue_eq_iff (by simp [hq])

/-! ## Samples -/

/-- The samples of a slope function: those of a grid, and those of a session that has it. -/
inductive IsSampleOf {α : Type} [Numeral α] (f : Slope α) (p : Sample α) : Prop
  | grid (bounds density : Datum α) (limit : Option ℕ) (samples : List (Sample α))
      (hs : Grid.sample f.evaluate bounds density limit = .ok samples) (hp : p ∈ samples)
  | session {ε : Type} (C : Calculus ε α) (s : Field α) (bounds density : Datum α)
      (samples : List (Sample α)) (hf : (s.ensureCompiled C).result = .ok f)
      (hs : (s.sample C bounds density).result = .ok samples) (hp : p ∈ samples)

section Samples

variable {α : Type} [Numeral α] {f : Slope α} {p : Sample α}

lemma IsSampleOf.slope_eq (hp : IsSampleOf f p) :
    p.slope = f.evaluate p.x p.y ∧ Arithmetic.isFinite p.slope = true := by
  cases hp with
  | grid bounds density limit samples hs hp => exact slope_of_mem_sample hs hp
  | session C s bounds density samples hf hs hp =>
    rw [result_sample hf] at hs
    exact slope_of_mem_sample hs hp

end Samples

lemma IsSampleOf.value {f : Slope Float} {p : Sample Float} (hp : IsSampleOf f p) :
    (f.value p.x p.y = p.slope ∨ f.value p.x p.y = 0) ∧
      (f.value p.x p.y ≠ p.slope → DividesByNearZero f.body p.x p.y) := by
  obtain ⟨hslope, hfinite⟩ := hp.slope_eq
  have hat := totalAt f p.x p.y
  by_cases hnear : DividesByNearZero f.body p.x p.y
  · exact ⟨.inr (hat.guarded hnear), fun _ => hnear⟩
  · have hsame : f.value p.x p.y = p.slope := by
      rw [hslope] at hfinite ⊢
      exact hat.raw hnear hfinite
    exact ⟨.inl hsame, fun hne => absurd hsame hne⟩

/-! ## Exact runs -/

section Exact

variable {f : Extended → Extended → Extended} {seed : Point Extended} {h : Extended}

/-- Where every slope is finite, so is all that a step computes. -/
lemma areFinite_of_total (hf : ∀ x y, Arithmetic.isFinite (f x y) = true) {y : Extended}
    (hy : Arithmetic.isFinite y = true) (hh : Arithmetic.isFinite h = true) (x : Extended) :
    (Stages.compute f x y h).areFinite = true := by
  have hstage (u v : Extended) : Arithmetic.isFinite (h * f u v) = true :=
    Extended.isFinite_mul hh (hf u v)
  have hdouble (u v : Extended) : Arithmetic.isFinite (Arithmetic.ofInt 2 * (h * f u v)) = true :=
    Extended.isFinite_mul rfl (hstage u v)
  have hnext : Arithmetic.isFinite (Stages.compute f x y h).next = true := by
    refine Extended.isFinite_add hy (Extended.isFinite_div ?_ (by decide))
    exact Extended.isFinite_add (Extended.isFinite_add (Extended.isFinite_add (hstage _ _)
      (hdouble _ _)) (hdouble _ _)) (hstage _ _)
  simp only [Stages.areFinite, List.all_cons, List.all_nil, Bool.and_eq_true]
  exact ⟨hstage _ _, hstage _ _, hstage _ _, hstage _ _, hnext, trivial⟩

variable (hf : ∀ x y, Arithmetic.isFinite (f x y) = true) (hseed : IsFinitePoint seed)
  (hh : Arithmetic.isFinite h = true)
include hf hseed hh

lemma finiteStep_of_finite {n : ℕ} (hn : IsFinitePoint (orbit f seed h n)) :
    FiniteStep f seed h n :=
  ⟨areFinite_of_total hf hn.y hh _,
    Extended.isFinite_add hseed.x (Extended.isFinite_mul rfl hh)⟩

lemma isFinitePoint_orbit (n : ℕ) : IsFinitePoint (orbit f seed h n) := by
  induction n with
  | zero => exact hseed
  | succ n ih => exact (finiteStep_of_finite hf hseed hh ih).next

lemma finiteStep_of_total (n : ℕ) : FiniteStep f seed h n :=
  finiteStep_of_finite hf hseed hh (isFinitePoint_orbit hf hseed hh n)

/-- A run of finite steps stops at its limit or before the first point outside. -/
lemma EndsBy.of_total {region : Point Extended → Except Fault Bool} {limit n : ℕ} {e : Ending}
    (he : EndsBy f region seed h limit n e) :
    (e = .exhausted ∧ n = limit) ∨
      (e = .outside ∧ n < limit ∧ region (orbit f seed h (n + 1)) = .ok false) := by
  cases he with
  | exhausted hn => exact .inl ⟨rfl, hn⟩
  | notFinite hn hstep => exact absurd (finiteStep_of_total hf hseed hh n) hstep
  | outside hn hstep hnext => exact .inr ⟨rfl, hn, hnext⟩

end Exact

/-- Every slope function of an equation is total. It follows the samples of its field but for those
where the text divides by a coordinate that is nearly zero. A run in a rectangle over such a
function, in exact arithmetic, returns, and stops at its limit or before its first point outside. -/
theorem slopes_are_total (raw : Option String) :
    (∀ f : Slope Float, IsSlopeOf raw f → f.body = Equation.body raw ∧ (∀ x y, TotalAt f x y) ∧
      ∀ p, IsSampleOf f p → (f.value p.x p.y = p.slope ∨ f.value p.x p.y = 0) ∧
        (f.value p.x p.y ≠ p.slope → DividesByNearZero f.body p.x p.y)) ∧
    ∀ f : Slope Extended, IsSlopeOf raw f →
      ∀ (s : Settings Extended) (direction maxSteps x₀ y₀ h : Datum Extended) (d M : ℤ)
        (seed : Point Extended) (w : Extended), HasBorders s → d = 1 ∨ d = -1 →
        direction.isEqual (.whole d) = true → AsksFor s maxSteps M → IsFinitePoint seed →
        Arithmetic.isFinite w = true → x₀.toNumber = .ok seed.x → y₀.toNumber = .ok seed.y →
        h.toNumber = .ok w →
        ∃ r N, Run.box f.value x₀ y₀ h s direction maxSteps = .ok r ∧
          r.points = orbitUpTo f.value seed (signedWidth d w) N ∧
          ((r.ending = .exhausted ∧ N = M.toNat) ∨
            (r.ending = .outside ∧ N < M.toNat ∧
              regionOf s (orbit f.value seed (signedWidth d w) (N + 1)) = .ok false)) := by
  constructor
  · intro f hf
    exact ⟨hf.body, totalAt f, fun p hp => hp.value⟩
  · intro f hf s direction maxSteps x₀ y₀ h d M seed w hs hd hdirection hM hseed hfinite hx hy hw
    have hvalue : ∀ x y, Arithmetic.isFinite (f.value x y) = true := isFinite_value_of_flat rfl f
    have hwidth : Arithmetic.isFinite (signedWidth d w) = true :=
      Extended.isFinite_mul rfl (Extended.isFinite_abs hfinite)
    obtain ⟨r, hr⟩ := box_returns (f := f.value) hs hd hx hy hw hM.boxLimit
    have hrun := inside_of_box hd hx hy hw hM.boxLimit hr
    obtain ⟨N, hN, hpoints⟩ := inside_extent hrun
    exact ⟨r, N, (box_of_isEqual hd hdirection).trans hr, hpoints,
      (inside_ending hN hrun).of_total hvalue hseed hwidth⟩

/-- Reciprocals of the abscissa. Next to the ordinate axis there are samples of a steep slope where
the slope is flat; and a run to the left goes on across the axis, up to the border. -/
theorem slopes_are_total_reciprocal :
    (∃ p, IsSlopeOf (some "1/x") (reciprocalSlope : Slope Float) ∧ IsSampleOf reciprocalSlope p ∧
      TotalAt reciprocalSlope p.x p.y ∧ reciprocalSlope.value p.x p.y ≠ p.slope ∧
      reciprocalSlope.value p.x p.y = 0 ∧ DividesByNearZero "1/x" p.x p.y) ∧
    ∃ r N, Run.box reciprocalSlope.value (.real (.finite (1 / 4))) (.whole 1)
        reciprocalSettings.step reciprocalSettings (.whole (-1)) .missing = .ok r ∧
      r.points = orbitUpTo reciprocalSlope.value ⟨.finite (1 / 4), .finite 1⟩
        (signedWidth (-1) (.finite (1 / 4))) N ∧
      N = 2 ∧ r.ending = .outside := by
  constructor
  · obtain ⟨samples, hs, p, hp, hother⟩ := exists_of_decided
      (x := Grid.sample (reciprocalSlope : Slope Float).evaluate
        (.list [.real 1e-11, .whole 1, .whole 0, .whole 1]) (.whole 2) none)
      (P := fun samples => ∃ p ∈ samples,
        Numeral.exact (reciprocalSlope.value p.x p.y) ≠ Numeral.exact p.slope) (by decide +kernel)
    have hf : IsSlopeOf (some "1/x") (reciprocalSlope : Slope Float) :=
      .compiled _ _ compile_reciprocal
    have hsample : IsSampleOf reciprocalSlope p := .grid _ _ _ samples hs hp
    obtain ⟨-, htotal, hvalue⟩ := (slopes_are_total (some "1/x")).1 reciprocalSlope hf
    obtain ⟨hor, hnear⟩ := hvalue p hsample
    have hne : reciprocalSlope.value p.x p.y ≠ p.slope :=
      fun heq => hother (congrArg Numeral.exact heq)
    exact ⟨p, hf, hsample, htotal p.x p.y, hne, hor.resolve_left hne, hnear hne⟩
  · have hf : IsSlopeOf (some "1/x") (reciprocalSlope : Slope Extended) :=
      .compiled _ _ compile_reciprocal
    have hs : HasBorders reciprocalSettings := ⟨rfl, rfl, rfl, rfl⟩
    have hM : AsksFor reciprocalSettings .missing 3 := rfl
    obtain ⟨r', hr', hlength, hending⟩ := exists_of_decided
      (x := Run.box reciprocalSlope.value (.real (.finite (1 / 4))) (.whole 1)
        reciprocalSettings.step reciprocalSettings (.whole (-1)) .missing)
      (P := fun r => r.points.length = 3 ∧ r.ending = .outside) (by decide +kernel)
    obtain ⟨r, N, hr, hpoints, -⟩ := (slopes_are_total (some "1/x")).2 reciprocalSlope hf
      reciprocalSettings (.whole (-1)) .missing (.real (.finite (1 / 4))) (.whole 1)
      reciprocalSettings.step (-1) 3 ⟨.finite (1 / 4), .finite 1⟩ (.finite (1 / 4)) hs (.inr rfl)
      rfl hM ⟨rfl, rfl⟩ rfl rfl rfl rfl
    have hsame : r' = r := Except.ok.inj (hr'.symm.trans hr)
    subst hsame
    rw [hpoints, length_orbitUpTo] at hlength
    exact ⟨r', N, hr', hpoints, Nat.succ.inj hlength, hending⟩

end DirectionField.Proofs
