import DirectionField.Proofs.FieldOperations
import DirectionField.Proofs.Rational
import DirectionField.Proofs.SolverOperations

/-!
# Agreement of the two kinds of runs

Runs to the right from one seed with one step are initial parts of the same orbit, whichever loop
computes them and whatever their limits. So the solution of an equation and the right part of a
curve through the same seed never disagree, and larger limits only add points at the end.
-/

namespace DirectionField.Proofs

section Agreement

variable {ε α : Type} [Numeral α]

/-- One list is an initial part of the other. -/
def Comparable {β : Type} (l l' : List β) : Prop := l <+: l' ∨ l' <+: l

/-- Whether a number stands above zero. -/
def IsPositive (w : α) : Prop := Extended.lt (.finite 0) (Numeral.exact w) = true

/-- What is asked of the arithmetic: neither the size nor the product with one changes a positive
number. -/
structure StepLaws (α : Type) [Numeral α] : Prop where
  abs_of_pos : ∀ w : α, IsPositive w → Arithmetic.abs w = w
  one_mul_of_pos : ∀ w : α, IsPositive w → Arithmetic.ofInt 1 * w = w

lemma isPositive_rat {q : ℚ} : IsPositive q ↔ 0 < q := by
  rw [IsPositive, exact_rat, Extended.lt_finite, decide_eq_true_iff]

lemma stepLaws_rat : StepLaws ℚ where
  abs_of_pos w hw := abs_of_pos (isPositive_rat.mp hw)
  one_mul_of_pos w _ := by rw [ofInt_rat, Int.cast_one, one_mul]

/-- A run to the right from a seed: up to the end of an interval, inside a rectangle, or to a target
that tells which. -/
inductive IsForwardRun (f : α → α → α) (x₀ y₀ h : Datum α) (r : Run α) : Prop
  | interval (xEnd ceiling : Datum α) (hr : Run.interval f x₀ y₀ xEnd h ceiling = .ok r)
  | box (s : Settings α) (maxSteps : Datum α)
      (hr : Run.box f x₀ y₀ h s (.whole 1) maxSteps = .ok r)
  | toTarget (target : Run.Target α) (maxSteps : Datum α)
      (hr : Run.toTarget f x₀ y₀ h target maxSteps = .ok r)

lemma StepLaws.signedWidth_one (laws : StepLaws α) {w : α} (hw : IsPositive w) :
    signedWidth 1 w = w := by
  unfold signedWidth
  rw [laws.abs_of_pos w hw, laws.one_mul_of_pos w hw]

lemma checkStep_real (w : α) : Settings.checkStep (.real w) = .ok () ↔ IsPositive w := by
  have hlt : (Datum.whole 0 : Datum α).lt (.real w) =
      .ok (Extended.lt (.finite 0) (Numeral.exact w)) := rfl
  unfold Settings.checkStep IsPositive
  rw [hlt]
  cases Extended.lt (.finite 0) (Numeral.exact w) <;> simp [Bind.bind, Except.bind, Pure.pure,
    Except.pure]

variable {f : α → α → α} {x₀ y₀ h : Datum α} {r r' : Run α}

/-- A target only chooses between the two kinds of runs. -/
lemma IsForwardRun.cases_interval_box (hr : IsForwardRun f x₀ y₀ h r) :
    (∃ xEnd ceiling, Run.interval f x₀ y₀ xEnd h ceiling = .ok r) ∨
      ∃ s maxSteps, Run.box f x₀ y₀ h s (.whole 1) maxSteps = .ok r := by
  cases hr with
  | interval xEnd ceiling hr => exact .inl ⟨xEnd, ceiling, hr⟩
  | box s maxSteps hr => exact .inr ⟨s, maxSteps, hr⟩
  | toTarget target maxSteps hr =>
    cases target with
    | settings s => exact .inr ⟨s, maxSteps, hr⟩
    | value d =>
      unfold Run.toTarget at hr
      dsimp only at hr
      split at hr
      · exact .inl ⟨d, _, hr⟩
      · cases hr

section Seed

variable {seed : Point α} {w : α} (hx : x₀.toNumber = .ok seed.x) (hy : y₀.toNumber = .ok seed.y)
include hx hy

lemma points_of_interval {xEnd ceiling : Datum α} (hw : h.toNumber = .ok w)
    (hr : Run.interval f x₀ y₀ xEnd h ceiling = .ok r) :
    ∃ n, r.points = orbitUpTo f seed w n := by
  obtain ⟨seed', e, w', n, hx', hy', -, hw', -, hpoints, -⟩ := interval_extent hr
  rw [seed_unique hx hy hx' hy', Except.ok.inj (hw.symm.trans hw')]
  exact ⟨n, hpoints⟩

lemma points_of_box {s : Settings α} {maxSteps : Datum α} (laws : StepLaws α)
    (hw : h.toNumber = .ok w) (hpos : IsPositive w)
    (hr : Run.box f x₀ y₀ h s (.whole 1) maxSteps = .ok r) :
    ∃ n, r.points = orbitUpTo f seed w n := by
  obtain ⟨seed', w', limit, n, hx', hy', hw', -, -, hpoints⟩ := box_extent (.inl rfl) hr
  rw [← Except.ok.inj (hw.symm.trans hw'), laws.signedWidth_one hpos] at hpoints
  rw [seed_unique hx hy hx' hy']
  exact ⟨n, hpoints⟩

lemma IsForwardRun.points_eq (laws : StepLaws α) (hw : h.toNumber = .ok w) (hpos : IsPositive w)
    (hr : IsForwardRun f x₀ y₀ h r) : ∃ n, r.points = orbitUpTo f seed w n := by
  obtain ⟨xEnd, ceiling, hr⟩ | ⟨s, maxSteps, hr⟩ := hr.cases_interval_box
  · exact points_of_interval hx hy hw hr
  · exact points_of_box hx hy laws hw hpos hr

/-! ## Sessions -/

/-- The points of a solution are an initial part of the orbit of its step, if there are any. -/
lemma points_of_solve {C : Calculus ε α} {solver : Solver α} {text : Option String}
    {slope : Slope α} (hc : C.compile text = .ok slope) {xEnd : Datum α} {solution : Solution α}
    (hw : h.toNumber = .ok w)
    (hs : (solver.solve C text x₀ y₀ xEnd h).result = .ok (some solution)) :
    solution.trajectory = [] ∨
      ∃ n, solution.trajectory = orbitUpTo slope.value seed w n := by
  rw [solve_of_compiles hc] at hs
  obtain ⟨p, hp, hnone | ⟨r, hr, hpoints⟩⟩ := trajectory_of_run hs
  · exact .inl hnone
  · obtain ⟨hpx, hpy, -, hph⟩ := problem_ok_iff.mp hp
    rw [Except.ok.inj (hw.symm.trans hph), seed_unique hx hy hpx hpy, hpoints]
    exact .inr (points_of_interval rfl rfl rfl hr)

/-- The part of a curve from its seed on is an initial part of the orbit of its step. -/
lemma right_points_of_addCurve {C : Calculus ε α} {s : Field α} {slope : Slope α}
    (laws : StepLaws α) (hf : s.function = some slope) (hw : s.settings.step.toNumber = .ok w)
    (hpos : IsPositive w) {c : Curve α} (hc : (s.addCurve C x₀ y₀).result = .ok c) :
    ∃ n, c.points.drop c.seedIndex = orbitUpTo slope.value seed w n := by
  obtain ⟨f, forward, backward, seed', hf', hforward, hbackward, hx', hy'⟩ := runs_of_addCurve hc
  rw [(addCurve_of_runs hf' hforward hbackward hx' hy').1, Except.ok.injEq] at hc
  rw [(ensureCompiled_of_some C s hf).1, Except.ok.injEq] at hf'
  subst hc hf'
  rw [Field.store, drop_splice]
  exact points_of_box hx hy laws hw hpos hforward

end Seed

/-! ## Larger limits -/

/-- A later end of the interval or a higher ceiling only adds points. -/
lemma interval_mono {xEnd xEnd' : Datum α} {e e' : α} {n n' : Int} (he : xEnd.toNumber = .ok e)
    (he' : xEnd'.toNumber = .ok e')
    (hlater : ∀ x : α, Arithmetic.lt x e = true → Arithmetic.lt x e' = true) (hn : n ≤ n')
    (hr : Run.interval f x₀ y₀ xEnd h (.whole n) = .ok r)
    (hr' : Run.interval f x₀ y₀ xEnd' h (.whole n') = .ok r') : r.points <+: r'.points := by
  obtain ⟨p, a, w, k, hpx, hpy, ha, hw, -, hpoints, hk⟩ := interval_extent hr
  obtain ⟨q, a', w', k', hqx, hqy, ha', hw', -, hpoints', hk'⟩ := interval_extent hr'
  have hseed := seed_unique hpx hpy hqx hqy
  have hwidth := Except.ok.inj (hw.symm.trans hw')
  have hend := Except.ok.inj (he.symm.trans ha)
  have hend' := Except.ok.inj (he'.symm.trans ha')
  subst hseed hwidth hend hend'
  have hle : k ≤ k' := (hk _ (ceilingSteps_whole ..)).le_of_imp (hk' _ (ceilingSteps_whole ..))
    (fun _ => hlater _) (Int.toNat_le_toNat hn)
  rw [hpoints, hpoints']
  exact orbitUpTo_mono _ _ _ hle

/-- A larger rectangle or a higher limit only adds points. -/
lemma box_mono {d : Int} (hd : d = 1 ∨ d = -1) {s s' : Settings α} {maxSteps maxSteps' : Datum α}
    {l l' : Nat} (hl : boxLimit s maxSteps = .ok l) (hl' : boxLimit s' maxSteps' = .ok l')
    (hlarger : ∀ p, regionOf s p = .ok true → regionOf s' p = .ok true) (hle : l ≤ l')
    (hr : Run.box f x₀ y₀ h s (.whole d) maxSteps = .ok r)
    (hr' : Run.box f x₀ y₀ h s' (.whole d) maxSteps' = .ok r') : r.points <+: r'.points := by
  obtain ⟨p, w, m, k, hpx, hpy, hw, hm, hk, hpoints⟩ := box_extent hd hr
  obtain ⟨q, w', m', k', hqx, hqy, hw', hm', hk', hpoints'⟩ := box_extent hd hr'
  have hseed := seed_unique hpx hpy hqx hqy
  have hwidth := Except.ok.inj (hw.symm.trans hw')
  have hlimit := Except.ok.inj (hl.symm.trans hm)
  have hlimit' := Except.ok.inj (hl'.symm.trans hm')
  subst hseed hwidth hlimit hlimit'
  have hsteps : k ≤ k' := hk.le_of_imp hk'
    (fun _ hadm => ⟨hadm.stages, hadm.abscissa, hlarger _ hadm.inside⟩) hle
  rw [hpoints, hpoints']
  exact orbitUpTo_mono _ _ _ hsteps

/-! ## Agreement -/

lemma comparable_of_orbits {f : α → α → α} {seed : Point α} {w : α} {l l' : List (Point α)}
    (hl : ∃ n, l = orbitUpTo f seed w n) (hl' : ∃ n, l' = orbitUpTo f seed w n) :
    Comparable l l' := by
  obtain ⟨m, rfl⟩ := hl
  obtain ⟨n, rfl⟩ := hl'
  exact orbitUpTo_comparable f seed w m n

/-- Runs to the right from one seed with one positive step follow one orbit and agree as far as both
go, whichever loop computes them; so do a solution of an equation and the right part of a curve in a
session that has taken over this equation. A later end, a larger rectangle or a higher limit only
adds points. Runs in numbers do return. -/
theorem forward_runs_agree (laws : StepLaws α) {x₀ y₀ h : Datum α} {seed : Point α} {w : α}
    (hx : x₀.toNumber = .ok seed.x) (hy : y₀.toNumber = .ok seed.y) (hw : h.toNumber = .ok w)
    (hpos : IsPositive w) :
    (∀ (f : α → α → α) (r : Run α), IsForwardRun f x₀ y₀ h r →
      ∃ n, r.points = orbitUpTo f seed w n) ∧
    (∀ (f : α → α → α) (r r' : Run α), IsForwardRun f x₀ y₀ h r → IsForwardRun f x₀ y₀ h r' →
      Comparable r.points r'.points) ∧
    (∀ (C : Calculus ε α) (text : String) (f : Slope α), C.compile (some text) = .ok f →
      (∀ field : Field α, (field.setEquation C (some text)).session.function = some f) ∧
      ∀ (solver : Solver α) (field : Field α) (xEnd : Datum α) (solution : Solution α)
        (c : Curve α), field.function = some f → field.settings.step.toNumber = .ok w →
        (solver.solve C (some text) x₀ y₀ xEnd h).result = .ok (some solution) →
        (field.addCurve C x₀ y₀).result = .ok c →
        Comparable solution.trajectory (c.points.drop c.seedIndex)) ∧
    (∀ (f : α → α → α) (xEnd xEnd' : Datum α) (e e' : α) (n n' : Int) (r r' : Run α),
      xEnd.toNumber = .ok e → xEnd'.toNumber = .ok e' →
      (∀ x : α, Arithmetic.lt x e = true → Arithmetic.lt x e' = true) → n ≤ n' →
      Run.interval f x₀ y₀ xEnd h (.whole n) = .ok r →
      Run.interval f x₀ y₀ xEnd' h (.whole n') = .ok r' → r.points <+: r'.points) ∧
    (∀ (f : α → α → α) (s s' : Settings α) (maxSteps maxSteps' : Datum α) (l l' : Nat)
      (r r' : Run α), boxLimit s maxSteps = .ok l → boxLimit s' maxSteps' = .ok l' →
      (∀ p, regionOf s p = .ok true → regionOf s' p = .ok true) → l ≤ l' →
      Run.box f x₀ y₀ h s (.whole 1) maxSteps = .ok r →
      Run.box f x₀ y₀ h s' (.whole 1) maxSteps' = .ok r' → r.points <+: r'.points) ∧
    (∀ (f : α → α → α) (xEnd : Datum α) (e : α) (n : Int), xEnd.toNumber = .ok e →
      ∃ r, Run.interval f x₀ y₀ xEnd (.real w) (.whole n) = .ok r) ∧
    (∀ (f : α → α → α) (s : Settings α) (n : Int), HasBorders s →
      ∃ r, Run.box f x₀ y₀ h s (.whole 1) (.whole n) = .ok r) := by
  refine ⟨?_, ?_, ?_, ?_, ?_, ?_, ?_⟩
  · intro f r hr
    exact hr.points_eq hx hy laws hw hpos
  · intro f r r' hr hr'
    exact comparable_of_orbits (hr.points_eq hx hy laws hw hpos) (hr'.points_eq hx hy laws hw hpos)
  · intro C text f hc
    refine ⟨fun field => function_of_setEquation C field hc, ?_⟩
    intro solver field xEnd solution c hfunction hstep hsolve hadd
    have hright := right_points_of_addCurve hx hy laws hfunction hstep hpos hadd
    obtain hnone | hpoints := points_of_solve hx hy hc hw hsolve
    · rw [hnone]
      exact .inl (List.nil_prefix)
    · exact comparable_of_orbits hpoints hright
  · intro f xEnd xEnd' e e' n n' r r' he he' hlater hn hr hr'
    exact interval_mono he he' hlater hn hr hr'
  · intro f s s' maxSteps maxSteps' l l' r r' hl hl' hlarger hle hr hr'
    exact box_mono (.inl rfl) hl hl' hlarger hle hr hr'
  · intro f xEnd e n he
    exact interval_returns ((checkStep_real w).mpr hpos) hx hy he rfl n
  · intro f s n hs
    exact box_returns hs (.inl rfl) hx hy hw rfl

/-- A solution and a curve through `(0, 1)` in the field of decay, and two runs from there. -/
theorem forward_runs_agree_decay :
    StepLaws ℚ ∧ IsPositive (1 / 2 : ℚ) ∧
    (∃ solution c,
      ((Solver.fresh (.whole 5)).solve decayCalculus (some "dy/dx = -y") (.whole 0) (.whole 1)
        (.whole 3) (.real (1 / 2))).result = .ok (some solution) ∧
      (decayField.addCurve decayCalculus (.whole 0) (.whole 1)).result = .ok c ∧
      Comparable solution.trajectory (c.points.drop c.seedIndex)) ∧
    (∃ r r', Run.interval decaySlope.value (.whole 0) (.whole 1) (.whole 1) (.real (1 / 2))
        (.whole 2) = .ok r ∧
      Run.box decaySlope.value (.whole 0) (.whole 1) (.real (1 / 2)) decaySettings (.whole 1)
        (.whole 3) = .ok r' ∧
      Comparable r.points r'.points) := by
  let seed : Point ℚ := ⟨0, 1⟩
  have hx : (Datum.whole 0 : Datum ℚ).toNumber = .ok seed.x := rfl
  have hy : (Datum.whole 1 : Datum ℚ).toNumber = .ok seed.y := rfl
  have hw : (Datum.real (1 / 2) : Datum ℚ).toNumber = .ok (1 / 2) := rfl
  have hpos : IsPositive (1 / 2 : ℚ) := isPositive_rat.mpr (by norm_num)
  obtain ⟨-, agree, sessions, -, -, interval, box⟩ :=
    forward_runs_agree (ε := Unit) stepLaws_rat hx hy hw hpos
  obtain ⟨r, hr⟩ := interval decaySlope.value (.whole 1) 1 2 rfl
  obtain ⟨r', hr'⟩ := box decaySlope.value decaySettings 3 decayExact_describes.hasBorders
  have hproblem : Solver.problem (α := ℚ) (.whole 0) (.whole 1) (.whole 3) (.real (1 / 2)) =
      .ok ⟨seed, 3, 1 / 2⟩ := rfl
  obtain ⟨q, hq⟩ : ∃ q, Run.interval decaySlope.value (.real seed.x) (.real seed.y) (.real 3)
      (.real (1 / 2)) (.whole 5) = .ok q :=
    interval_returns ((checkStep_real _).mpr hpos) rfl rfl rfl rfl 5
  obtain ⟨solution, hsolution⟩ :=
    solve_returns (s := Solver.fresh (.whole 5)) compile_decay hproblem hq
  obtain ⟨c, hc⟩ := addCurve_returns (C := decayCalculus) (s := decayField) rfl
    decayExact_describes.hasBorders hx hy hw decayExact_describes.boxLimit_missing
  exact ⟨stepLaws_rat, hpos,
    ⟨solution, c, hsolution, hc,
      (sessions _ _ _ compile_decay).2 _ _ _ _ _ rfl rfl hsolution hc⟩,
    ⟨r, r', hr, hr', agree _ r r' (.interval _ _ hr) (.box _ _ hr')⟩⟩

end Agreement

end DirectionField.Proofs
