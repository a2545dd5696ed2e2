import DirectionField.Proofs.RectangleRuns
import DirectionField.Proofs.SolverEcho

/-!
# Points that are not finite

A run in a rectangle gives finite points only. A run over an interval has no test for them: its
points are finite exactly as long as its steps would pass that of the rectangle, and it goes on
after the first one that does not, with ordinates that are never finite again.
-/

namespace DirectionField.Proofs

open Float.Model (UnpackedFloat Format)

/-- What is asked of the arithmetic: sums, products and quotients that are finite have finite terms,
finite factors and a finite dividend. -/
structure FiniteLaws (α : Type) [Arithmetic α] : Prop where
  add {a b : α} : Arithmetic.isFinite (a + b) = true →
    Arithmetic.isFinite a = true ∧ Arithmetic.isFinite b = true
  mul {a b : α} : Arithmetic.isFinite (a * b) = true →
    Arithmetic.isFinite a = true ∧ Arithmetic.isFinite b = true
  div {a b : α} : Arithmetic.isFinite (a / b) = true → Arithmetic.isFinite a = true

/-! ## Doubles -/

section Doubles

variable {u v : UnpackedFloat}

lemma isFinite_of_pack (h : (Float.Model.pack u).unpack.isFinite = true) : u.isFinite = true := by
  cases u with
  | notANumber => exact absurd h (by decide)
  | infinity s => cases s <;> exact absurd h (by decide)
  | zero | finite => rfl

lemma isFinite_of_add (h : (UnpackedFloat.add Format.binary64 u v).isFinite = true) :
    u.isFinite = true ∧ v.isFinite = true := by
  cases u with
  | notANumber => cases v <;> cases h
  | infinity s =>
    cases v with
    | infinity t => cases s <;> cases t <;> cases h
    | notANumber | zero | finite => cases h
  | zero | finite =>
    cases v with
    | notANumber | infinity => cases h
    | zero | finite => exact ⟨rfl, rfl⟩

lemma isFinite_of_mul (h : (UnpackedFloat.mul Format.binary64 u v).isFinite = true) :
    u.isFinite = true ∧ v.isFinite = true := by
  cases u with
  | notANumber | infinity => cases v <;> cases h
  | zero | finite =>
    cases v with
    | notANumber | infinity => cases h
    | zero | finite => exact ⟨rfl, rfl⟩

lemma isFinite_of_div (h : (UnpackedFloat.div Format.binary64 u v).isFinite = true) :
    u.isFinite = true := by
  cases u with
  | notANumber | infinity => cases v <;> cases h
  | zero | finite => rfl

lemma finiteLaws_double : FiniteLaws Float where
  add h := isFinite_of_add (isFinite_of_pack h)
  mul h := isFinite_of_mul (isFinite_of_pack h)
  div h := isFinite_of_div (isFinite_of_pack h)

end Doubles

/-! ## Steps -/

section Steps

variable {α : Type} [Arithmetic α] {f : α → α → α} {seed : Point α} {h : α} {n : ℕ}

instance (p : Point α) : Decidable (IsFinitePoint p) :=
  decidable_of_iff (Arithmetic.isFinite p.x = true ∧ Arithmetic.isFinite p.y = true)
    ⟨fun ⟨hx, hy⟩ => ⟨hx, hy⟩, fun ⟨hx, hy⟩ => ⟨hx, hy⟩⟩

/-- The next value takes in all that a step has computed. -/
lemma FiniteLaws.of_next (law : FiniteLaws α) {x y : α}
    (hnext : Arithmetic.isFinite (Stages.compute f x y h).next = true) :
    Arithmetic.isFinite y = true ∧ (Stages.compute f x y h).areFinite = true := by
  obtain ⟨hy, hquotient⟩ := law.add hnext
  obtain ⟨hthree, hk4⟩ := law.add (law.div hquotient)
  obtain ⟨htwo, hdouble3⟩ := law.add hthree
  obtain ⟨hk1, hdouble2⟩ := law.add htwo
  have hk2 := (law.mul hdouble2).2
  have hk3 := (law.mul hdouble3).2
  refine ⟨hy, ?_⟩
  simp only [Stages.areFinite, List.all_cons, List.all_nil, Bool.and_eq_true]
  exact ⟨hk1, hk2, hk3, hk4, hnext, trivial⟩

lemma FiniteLaws.finiteStep_iff (law : FiniteLaws α) :
    FiniteStep f seed h n ↔ IsFinitePoint (orbit f seed h (n + 1)) :=
  ⟨FiniteStep.next, fun hnext => ⟨(law.of_next hnext.y).2, hnext.x⟩⟩

lemma FiniteLaws.ordinate_of_le (law : FiniteLaws α) {m : ℕ} (hmn : m ≤ n)
    (hn : Arithmetic.isFinite (orbit f seed h n).y = true) :
    Arithmetic.isFinite (orbit f seed h m).y = true := by
  induction n, hmn using Nat.le_induction with
  | base => exact hn
  | succ n hmn ih => exact ih (law.of_next hn).1

lemma mem_orbitUpTo {p : Point α} :
    p ∈ orbitUpTo f seed h n ↔ ∃ k ≤ n, orbit f seed h k = p := by
  simp only [orbitUpTo, List.mem_map, List.mem_range, Nat.lt_succ_iff]

lemma finite_of_steps (hseed : IsFinitePoint seed) (hsteps : ∀ k < n, FiniteStep f seed h k) :
    ∀ p ∈ orbitUpTo f seed h n, IsFinitePoint p := by
  intro p hp
  obtain ⟨k, hk, rfl⟩ := mem_orbitUpTo.mp hp
  cases k with
  | zero => exact hseed
  | succ k => exact (hsteps k hk).next

lemma FiniteLaws.finite_iff_steps (law : FiniteLaws α) (hseed : IsFinitePoint seed) :
    (∀ p ∈ orbitUpTo f seed h n, IsFinitePoint p) ↔ ∀ k < n, FiniteStep f seed h k := by
  refine ⟨?_, finite_of_steps hseed⟩
  intro hall k hk
  exact law.finiteStep_iff.mpr (hall _ (mem_orbitUpTo.mpr ⟨k + 1, hk, rfl⟩))

lemma take_orbitUpTo {m : ℕ} (hmn : m ≤ n) :
    (orbitUpTo f seed h n).take (m + 1) = orbitUpTo f seed h m := by
  have hprefix := List.prefix_iff_eq_take.mp (orbitUpTo_mono f seed h hmn)
  rw [length_orbitUpTo] at hprefix
  exact hprefix.symm

end Steps

/-! ## Runs -/

section Runs

variable {α : Type} [Numeral α] {f : α → α → α} {x₀ y₀ xEnd h ceiling : Datum α}
  {seed : Point α} {e w : α} {points : List (Point α)}

/-- The points of a run over an interval, as they are or as those of a solution. -/
inductive IsIntervalTrajectory (f : α → α → α) (x₀ y₀ xEnd h ceiling : Datum α) :
    List (Point α) → Prop
  | run (r : Run α) (hr : Run.interval f x₀ y₀ xEnd h ceiling = .ok r) :
      IsIntervalTrajectory f x₀ y₀ xEnd h ceiling r.points
  | solution {ε : Type} (C : Calculus ε α) (s : Solver α) (equation : Option String) (g : Slope α)
      (t : Solution α) (hc : C.compile equation = .ok g) (hg : g.value = f)
      (hs : s.maxSteps = ceiling) (ht : answer C s ⟨equation, x₀, y₀, xEnd, h⟩ = .ok (some t))
      (hok : t.error = none) : IsIntervalTrajectory f x₀ y₀ xEnd h ceiling t.trajectory

lemma interval_extent_of_numbers (hx : x₀.toNumber = .ok seed.x) (hy : y₀.toNumber = .ok seed.y)
    (he : xEnd.toNumber = .ok e) (hw : h.toNumber = .ok w) {r : Run α}
    (hr : Run.interval f x₀ y₀ xEnd h ceiling = .ok r) :
    ∃ n, r.points = orbitUpTo f seed w n ∧
      ∀ limit, Run.ceilingSteps seed.x e w ceiling = .ok limit →
        Extent (StartsBefore f seed w e) limit n := by
  obtain ⟨seed', e', w', n, hx', hy', he', hw', -, hpoints, hextent⟩ := interval_extent hr
  have hsame := seed_unique hx' hy' hx hy
  have hend := Except.ok.inj (he'.symm.trans he)
  have hwidth := Except.ok.inj (hw'.symm.trans hw)
  subst hsame hend hwidth
  exact ⟨n, hpoints, hextent⟩

lemma IsIntervalTrajectory.extent (hp : IsIntervalTrajectory f x₀ y₀ xEnd h ceiling points)
    (hx : x₀.toNumber = .ok seed.x) (hy : y₀.toNumber = .ok seed.y) (he : xEnd.toNumber = .ok e)
    (hw : h.toNumber = .ok w) :
    ∃ n, points = orbitUpTo f seed w n ∧
      ∀ limit, Run.ceilingSteps seed.x e w ceiling = .ok limit →
        Extent (StartsBefore f seed w e) limit n := by
  cases hp with
  | run r hr => exact interval_extent_of_numbers hx hy he hw hr
  | solution C s equation g t hc hg hs ht hok =>
    obtain ⟨g', p, r, hc', hproblem, -, hr, rfl⟩ := solved_of_success ht hok
    have hslope := Except.ok.inj (hc'.symm.trans hc)
    have hp := Except.ok.inj (hproblem.symm.trans (problem_ok_iff (p := ⟨seed, e, w⟩).mpr
      ⟨hx, hy, he, hw⟩))
    subst hslope hp hg hs
    exact interval_extent_of_numbers rfl rfl rfl rfl hr

lemma direction_of_box {s : Settings α} {direction maxSteps : Datum α} {r : Run α}
    (hr : Run.box f x₀ y₀ h s direction maxSteps = .ok r) :
    ∃ d : ℤ, (d = 1 ∨ d = -1) ∧ direction.isEqual (.whole d) = true := by
  by_cases hright : direction.isEqual (.whole 1) = true
  · exact ⟨1, .inl rfl, hright⟩
  · by_cases hleft : direction.isEqual (.whole (-1)) = true
    · exact ⟨-1, .inr rfl, hleft⟩
    · simp [Run.box, hright, hleft, Bind.bind, Except.bind] at hr

lemma finite_of_box {s : Settings α} {direction maxSteps : Datum α} {r : Run α}
    (hx : x₀.toNumber = .ok seed.x) (hy : y₀.toNumber = .ok seed.y) (hseed : IsFinitePoint seed)
    (hr : Run.box f x₀ y₀ h s direction maxSteps = .ok r) : ∀ p ∈ r.points, IsFinitePoint p := by
  obtain ⟨d, hd, hdirection⟩ := direction_of_box hr
  rw [box_of_isEqual hd hdirection] at hr
  obtain ⟨seed', w, limit, n, hx', hy', -, -, hn, hpoints⟩ := box_extent hd hr
  have hsame := seed_unique hx' hy' hx hy
  subst hsame
  rw [hpoints]
  exact finite_of_steps hseed fun k hk => (hn.each k hk).finiteStep

/-- A trajectory over an interval goes as far as its steps start before the end, within the ceiling,
whether or not its points are finite. Each initial part of it has finite points exactly when all its
steps are finite, which is what a run in a rectangle asks of its steps before it keeps their points,
so that all of those are finite. No ordinate behind one that is not finite is finite. -/
theorem interval_finite_iff_steps (law : FiniteLaws α)
    (hp : IsIntervalTrajectory f x₀ y₀ xEnd h ceiling points) (hx : x₀.toNumber = .ok seed.x)
    (hy : y₀.toNumber = .ok seed.y) (he : xEnd.toNumber = .ok e) (hw : h.toNumber = .ok w)
    (hseed : IsFinitePoint seed) :
    (∃ N, points = orbitUpTo f seed w N ∧
      (∀ limit, Run.ceilingSteps seed.x e w ceiling = .ok limit →
        Extent (StartsBefore f seed w e) limit N) ∧
      ∀ n ≤ N, (∀ p ∈ points.take (n + 1), IsFinitePoint p) ↔ ∀ k < n, FiniteStep f seed w k) ∧
    points.Pairwise (fun p q => Arithmetic.isFinite q.y = true → Arithmetic.isFinite p.y = true) ∧
    ∀ s direction maxSteps r, Run.box f x₀ y₀ h s direction maxSteps = .ok r →
      ∀ p ∈ r.points, IsFinitePoint p := by
  obtain ⟨N, rfl, hextent⟩ := hp.extent hx hy he hw
  refine ⟨⟨N, rfl, hextent, ?_⟩, ?_, ?_⟩
  · intro n hn
    rw [take_orbitUpTo hn]
    exact law.finite_iff_steps hseed
  · rw [orbitUpTo, List.pairwise_map]
    exact List.pairwise_lt_range.imp fun hlt => law.ordinate_of_le hlt.le
  · intro s direction maxSteps r hr
    exact finite_of_box hx hy hseed hr

end Runs

/-! ## Steep slopes -/

/-- Ten steps up a constant slope: the ninth one leaves the range of doubles. -/
theorem interval_finite_iff_steps_steep :
    ∃ r, Run.interval (fun _ _ => 2e307) (.real 0) (.real 0) (.real 10) (.real 1) (.whole 10) =
        .ok r ∧
      IsFinitePoint (⟨0, 0⟩ : Point Float) ∧ r.points.length = 11 ∧
      (∀ k < 8, FiniteStep (fun _ _ => 2e307) (⟨0, 0⟩ : Point Float) 1 k) ∧
      ¬ ∀ k < 9, FiniteStep (fun _ _ => 2e307) (⟨0, 0⟩ : Point Float) 1 k := by
  obtain ⟨r, hr, hlength, hnine, hten⟩ := exists_of_decided
    (x := Run.interval (fun _ _ => (2e307 : Float)) (.real 0) (.real 0) (.real 10) (.real 1)
      (.whole 10))
    (P := fun r => r.points.length = 11 ∧ (∀ p ∈ r.points.take 9, IsFinitePoint p) ∧
      ¬ ∀ p ∈ r.points.take 10, IsFinitePoint p) (by decide +kernel)
  have hseed : IsFinitePoint (⟨0, 0⟩ : Point Float) := by decide +kernel
  have hx : (Datum.real 0 : Datum Float).toNumber = .ok (⟨0, 0⟩ : Point Float).x := rfl
  have hy : (Datum.real 0 : Datum Float).toNumber = .ok (⟨0, 0⟩ : Point Float).y := rfl
  obtain ⟨⟨N, hpoints, -, hsteps⟩, -, -⟩ :=
    interval_finite_iff_steps finiteLaws_double (.run r hr) hx hy rfl rfl hseed
  have hN : N = 10 := by
    rw [hpoints, length_orbitUpTo] at hlength
    omega
  subst hN
  exact ⟨r, hr, hseed, hlength, (hsteps 8 (by decide)).mp hnine,
    fun hall => hten ((hsteps 9 (by decide)).mpr hall)⟩

/-- One step of width a hundred up a slope near the end of the range of doubles. -/
def steepCall : Solver.Call Float := ⟨some "1e308", .real 0, .real 0, .real 100, .real 100⟩

lemma isFinite_value_of_flat {α : Type} [Arithmetic α]
    (hflat : Arithmetic.isFinite (Slope.flatSlope : α) = true) (f : Slope α) (x y : α) :
    Arithmetic.isFinite (f.value x y) = true := by
  unfold Slope.value
  dsimp only
  split
  · exact hflat
  · split
    · assumption
    · exact hflat

lemma isFinite_value (f : Slope Float) (x y : Float) : Arithmetic.isFinite (f.value x y) = true :=
  isFinite_value_of_flat (by decide +kernel) f x y

/-- A finite slope, a finite seed, a finite width and a finite end: the call is a success, and not
all of its points are finite. -/
theorem success_with_infinite_ordinate :
    ∃ f p t, Formula.calculus.compile steepCall.equation = .ok f ∧
      (∀ x y, Arithmetic.isFinite (f.value x y) = true) ∧ problemOf steepCall = .ok p ∧
      IsFinitePoint p.seed ∧ Arithmetic.isFinite p.xEnd = true ∧ Arithmetic.isFinite p.h = true ∧
      Arithmetic.lt (Arithmetic.ofInt 0) p.h = true ∧
      answer Formula.calculus (Solver.fresh (.whole 10)) steepCall = .ok (some t) ∧
      t.error = none ∧
      (∃ r, Run.interval f.value (.real p.seed.x) (.real p.seed.y) (.real p.xEnd) (.real p.h)
        (.whole 10) = .ok r ∧ r.points = t.trajectory) ∧
      ∃ q ∈ t.trajectory, ¬ IsFinitePoint q := by
  obtain ⟨given, ht, t, hgiven, hok, hinfinite⟩ := exists_of_decided
    (x := answer Formula.calculus (Solver.fresh (.whole 10)) steepCall)
    (P := fun o => ∃ t ∈ o, t.error = none ∧ ∃ q ∈ t.trajectory, ¬ IsFinitePoint q)
    (by decide +kernel)
  subst hgiven
  obtain ⟨f, p, r, hc, hp, hh, hr, rfl⟩ := solved_of_success ht hok
  have hproblem : p = ⟨⟨0, 0⟩, 100, 100⟩ := Except.ok.inj (hp.symm.trans rfl)
  have hfinite : IsFinitePoint p.seed ∧ Arithmetic.isFinite p.xEnd = true ∧
      Arithmetic.isFinite p.h = true := by
    rw [hproblem]
    decide +kernel
  exact ⟨f, p, _, hc, isFinite_value f, hp, hfinite.1, hfinite.2.1, hfinite.2.2, hh, ht, hok,
    ⟨r, hr, rfl⟩, hinfinite⟩

end DirectionField.Proofs
