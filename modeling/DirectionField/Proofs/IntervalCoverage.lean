import DirectionField.Proofs.CurveSplice
import DirectionField.Proofs.SolverEcho

/-!
# How far a solution covers its interval

A run over an interval takes the steps that lead up to its end, unless there are more of them than
the ceiling admits. In exact arithmetic this is the quotient of the distance and the step, rounded
up. A solution that is cut by the ceiling is a success all the same; the journal tells of it.
-/

namespace DirectionField.Proofs

lemma Extent.eq_min {c limit n : ℕ} (h : Extent (fun k => k < c) limit n) : n = min limit c := by
  have hc : n ≤ c := by
    by_contra hlt
    exact lt_irrefl c (h.each c (Nat.lt_of_not_le hlt))
  have hwithin := h.within
  have hmaximal := h.maximal
  omega

section Loop

variable {α : Type} [Arithmetic α] {f : α → α → α} {seed : Point α} {h xEnd : α}

lemma getLast?_orbitUpTo (n : ℕ) :
    (orbitUpTo f seed h n).getLast? = some (orbit f seed h n) := by
  unfold orbitUpTo
  rw [List.range_succ, List.map_append, List.map_singleton, List.getLast?_concat]

/-- Steps that start before the end bring the loop from the seed to the point after them. -/
lemma upToFrom_of_each {m : ℕ} (hbefore : ∀ k < m, StartsBefore f seed h xEnd k)
    (remaining : ℕ) :
    Run.upToFrom f seed.x h xEnd (remaining + m) 1 seed [seed] =
      Run.upToFrom f seed.x h xEnd remaining (m + 1) (orbit f seed h m)
        (orbitUpTo f seed h m).reverse := by
  induction m generalizing remaining with
  | zero => rfl
  | succ m ih =>
    have hearlier : ∀ k < m, StartsBefore f seed h xEnd k := fun k hk => hbefore k (by omega)
    have hcount : remaining + (m + 1) = remaining + 1 + m := by omega
    rw [hcount, ih hearlier (remaining + 1)]
    exact upToFrom_of_before (hbefore m (Nat.lt_succ_self m)) remaining

/-- A run up to the end of an interval, with its ending: the ceiling exactly if its last point does
not reach the end. -/
lemma upTo_of_extent {limit n : ℕ} (hn : Extent (StartsBefore f seed h xEnd) limit n) :
    Run.upTo f seed xEnd h limit =
      ⟨orbitUpTo f seed h n,
        if Arithmetic.lt (orbit f seed h n).x xEnd then .ceiling else .reached⟩ := by
  obtain ⟨rest, hrest⟩ := Nat.exists_eq_add_of_le' hn.within
  rw [Run.upTo, hrest, upToFrom_of_each hn.each]
  cases rest with
  | zero => rw [Run.upToFrom, List.reverse_reverse]
  | succ rest =>
    have hreached : ¬ StartsBefore f seed h xEnd n := hn.maximal (by omega)
    unfold StartsBefore at hreached
    rw [Run.upToFrom, if_neg hreached, if_neg hreached, List.reverse_reverse]

end Loop

section Interval

variable {α : Type} [Numeral α] {f : α → α → α} {x₀ y₀ xEnd h : Datum α} {seed : Point α} {e w : α}

/-- An interval run under a whole ceiling is the loop from the numbers that it reads. -/
lemma interval_of_numbers (hstep : Settings.checkStep h = .ok ()) (hx : x₀.toNumber = .ok seed.x)
    (hy : y₀.toNumber = .ok seed.y) (he : xEnd.toNumber = .ok e) (hw : h.toNumber = .ok w)
    (M : ℤ) :
    Run.interval f x₀ y₀ xEnd h (.whole M) = .ok (Run.upTo f seed e w M.toNat) := by
  rw [interval_whole hstep hx hy he hw]
  by_cases hlt : Arithmetic.lt seed.x e = true
  · rw [if_pos hlt]
  · have hzero : Extent (StartsBefore f seed w e) M.toNat 0 := Extent.zero_of_refused hlt
    rw [if_neg hlt, upTo_of_extent hzero, orbit, if_neg hlt]
    rfl

end Interval

/-! ## Exact arithmetic -/

/-- The steps that it takes to come from one abscissa to another one. -/
def stepsBetween (a b h : ℚ) : ℕ := ⌈(b - a) / h⌉₊

section Exact

variable {f : ℚ → ℚ → ℚ} {seed : Point ℚ} {h xEnd : ℚ}

lemma startsBefore_iff (hpos : 0 < h) (n : ℕ) :
    StartsBefore f seed h xEnd n ↔ n < stepsBetween seed.x xEnd h := by
  rw [StartsBefore, lt_rat, decide_eq_true_iff, orbit_x, stepsBetween, Nat.lt_ceil,
    lt_div_iff₀ hpos, lt_sub_iff_add_lt']

lemma upTo_rational (hpos : 0 < h) (limit : ℕ) :
    Run.upTo f seed xEnd h limit =
      ⟨orbitUpTo f seed h (min limit (stepsBetween seed.x xEnd h)),
        if limit < stepsBetween seed.x xEnd h then .ceiling else .reached⟩ := by
  obtain ⟨n, hn, -⟩ := upTo_extent f seed h xEnd limit
  have hmin : n = min limit (stepsBetween seed.x xEnd h) :=
    (hn.congr (startsBefore_iff hpos)).eq_min
  have hcut : Arithmetic.lt (orbit f seed h n).x xEnd = true ↔
      limit < stepsBetween seed.x xEnd h := by
    rw [← StartsBefore, startsBefore_iff hpos]
    omega
  rw [upTo_of_extent hn, ← hmin]
  simp only [hcut]

end Exact

/-! ## Solutions -/

section Calls

variable {ε : Type} {C : Calculus ε ℚ} {s : Solver ℚ} {c : Solver.Call ℚ} {solution : Solution ℚ}
  {p : Solver.Problem ℚ} {M : ℤ}

lemma events_of_solved {f : Slope ℚ} {r : Run ℚ} (hc : C.compile c.equation = .ok f)
    (hp : problemOf c = .ok p) (hh : Arithmetic.lt (Arithmetic.ofInt 0) p.h = true)
    (hr : runOf s.maxSteps f p = .ok r) :
    (s.solve C c.equation c.x₀ c.y₀ c.xEnd c.h).events = r.intervalEvents s.maxSteps ++
      [.solved (c.equation.getD "") p.seed p.xEnd p.h r.points.length] := by
  unfold problemOf at hp
  unfold runOf at hr
  rw [solve_of_compiles hc, Solver.run, hp]
  simp only [hh, Bool.not_true, Bool.false_eq_true, if_false, hr]

/-- A solution without an error under a whole ceiling holds the loop from its numbers. -/
lemma run_of_success (hs : s.maxSteps = .whole M) (h : answer C s c = .ok (some solution))
    (hok : solution.error = none) (hp : problemOf c = .ok p) :
    0 < p.h ∧ ∃ r, (∃ f : ℚ → ℚ → ℚ, r = Run.upTo f p.seed p.xEnd p.h M.toNat) ∧
      solution = solutionOf c p r ∧
      (s.solve C c.equation c.x₀ c.y₀ c.xEnd c.h).events = r.intervalEvents (.whole M) ++
        [.solved (c.equation.getD "") p.seed p.xEnd p.h r.points.length] := by
  obtain ⟨f, q, r, hc, hq, hh, hr, hsolution⟩ := solved_of_success h hok
  have hqp : q = p := Except.ok.inj (hq.symm.trans hp)
  subst hqp
  have hpos : 0 < q.h := by simpa using hh
  have hevents := events_of_solved hc hp hh hr
  have hstep := (checkStep_real q.h).mpr (isPositive_rat.mpr hpos)
  rw [hs, runOf, interval_of_numbers hstep rfl rfl rfl rfl, Except.ok.injEq] at hr
  rw [hs] at hevents
  exact ⟨hpos, r, ⟨f.value, hr.symm⟩, hsolution, hevents⟩

/-- In exact arithmetic a successful solution under a ceiling of at least one step ends at the end of
its interval or behind it exactly when the steps up to there are within the ceiling. Otherwise it
has as many steps as the ceiling admits, ends before the end of the interval, and the journal tells
of the ceiling, while the third line of its explanation names the whole interval in either case. -/
theorem success_covers_unless_ceiling (hs : s.maxSteps = .whole M) (hM : 1 ≤ M)
    (h : answer C s c = .ok (some solution)) (hok : solution.error = none)
    (hp : problemOf c = .ok p) :
    ∃ last, solution.trajectory.getLast? = some last ∧
      (solution.trajectory.length : ℤ) = min M (stepsBetween p.seed.x p.xEnd p.h) + 1 ∧
      last.x = p.seed.x + (solution.trajectory.length - 1) * p.h ∧
      (p.xEnd ≤ last.x ↔ stepsBetween p.seed.x p.xEnd p.h ≤ M) ∧
      (last.x < p.xEnd →
        (solution.trajectory.length : ℤ) = M + 1 ∧ last.x = p.seed.x + M * p.h) ∧
      (.ceilingReached (.whole M) last.x ∈
        (s.solve C c.equation c.x₀ c.y₀ c.xEnd c.h).events ↔ last.x < p.xEnd) ∧
      (solution.steps[2]?).map (·.resultText) = some ("h = " ++ Text.compact6 p.h ++ " on [" ++
        Text.compact6 p.seed.x ++ ", " ++ Text.compact6 p.xEnd ++ "]") := by
  obtain ⟨hpos, r, ⟨f, hr⟩, rfl, hevents⟩ := run_of_success hs h hok hp
  rw [upTo_rational hpos] at hr
  set total := stepsBetween p.seed.x p.xEnd p.h with htotal
  set n := min M.toNat total with hn
  have hpoints : (solutionOf c p r).trajectory = orbitUpTo f p.seed p.h n := by rw [hr]; rfl
  have hlength : (orbitUpTo f p.seed p.h n).length = n + 1 := length_orbitUpTo ..
  have hx : (orbit f p.seed p.h n).x = p.seed.x + n * p.h := orbit_x ..
  have hbefore : (orbit f p.seed p.h n).x < p.xEnd ↔ M < total := by
    have hstarts : (orbit f p.seed p.h n).x < p.xEnd ↔ n < total := by
      rw [htotal, ← startsBefore_iff hpos (f := f), StartsBefore, lt_rat, decide_eq_true_iff]
    rw [hstarts]
    omega
  refine ⟨orbit f p.seed p.h n, ?_, ?_, ?_, ?_, ?_, ?_, rfl⟩
  · rw [hpoints, getLast?_orbitUpTo]
  · rw [hpoints, hlength]
    omega
  · rw [hpoints, hlength, hx]
    push_cast
    ring
  · rw [← not_lt, hbefore, not_lt]
  · intro hlt
    have hall : (n : ℤ) = M := by
      have hcut := hbefore.mp hlt
      omega
    have hcast : (n : ℚ) = M := by exact_mod_cast hall
    rw [hpoints, hlength, hx, hcast]
    exact ⟨by push_cast; omega, rfl⟩
  · rw [hevents, hbefore, Run.intervalEvents, hr]
    simp only [getLast?_orbitUpTo]
    by_cases hcut : M.toNat < total
    · rw [if_pos hcut]
      simp
      omega
    · rw [if_neg hcut]
      simp
      omega

end Calls

/-! ## Decay over a unit interval -/

/-- Decay from `(0, 1)` to the abscissa one, in halves. -/
def decayCall : Solver.Call ℚ :=
  ⟨some "dy/dx = -y", .whole 0, .whole 1, .whole 1, .real (1 / 2)⟩

def decayProblem : Solver.Problem ℚ := ⟨⟨0, 1⟩, 1, 1 / 2⟩

lemma problemOf_decayCall : problemOf decayCall = .ok decayProblem := rfl

lemma decayCall_solved (M : ℤ) : ∃ solution,
    answer decayCalculus (Solver.fresh (.whole M)) decayCall = .ok (some solution) ∧
      solution.error = none ∧
      solution.trajectory =
        (Run.upTo decaySlope.value ⟨0, 1⟩ 1 (1 / 2) M.toNat).points := by
  have hpos : (0 : ℚ) < 1 / 2 := by norm_num
  have hstep := (checkStep_real (1 / 2 : ℚ)).mpr (isPositive_rat.mpr hpos)
  have hr : runOf (.whole M) decaySlope decayProblem =
      .ok (Run.upTo decaySlope.value ⟨0, 1⟩ 1 (1 / 2) M.toNat) :=
    interval_of_numbers hstep rfl rfl rfl rfl M
  have hv : Reaches decayCalculus (.whole M) decayCall (.replaced .ready (some decaySlope) _) :=
    .solved decaySlope decayProblem _ compile_decay problemOf_decayCall (by simp [decayProblem]) hr
  exact ⟨_, answer_of_verdict (s := Solver.fresh (.whole M)) hv, rfl, rfl⟩

/-- Five steps are enough for the two halves. -/
theorem success_covers_unless_ceiling_decay : ∃ solution last,
    answer decayCalculus (Solver.fresh (.whole 5)) decayCall = .ok (some solution) ∧
      solution.error = none ∧ problemOf decayCall = .ok decayProblem ∧
      solution.trajectory.getLast? = some last ∧
      (solution.trajectory.length : ℤ) = min 5 (stepsBetween 0 1 (1 / 2) : ℤ) + 1 ∧
      decayProblem.xEnd ≤ last.x := by
  obtain ⟨solution, hsolved, hok, -⟩ := decayCall_solved 5
  obtain ⟨last, hlast, hlength, -, hcovers, -⟩ :=
    success_covers_unless_ceiling rfl (by decide) hsolved hok problemOf_decayCall
  have hsteps : stepsBetween 0 1 (1 / 2) = 2 := by norm_num [stepsBetween]
  refine ⟨solution, last, hsolved, hok, problemOf_decayCall, hlast, hlength, hcovers.mpr ?_⟩
  rw [decayProblem, hsteps]
  decide

/-- Under a ceiling of one step the same call is a success that ends halfway. -/
theorem ceiling_leaves_interval_open : ∃ solution last,
    answer decayCalculus (Solver.fresh (.whole 1)) decayCall = .ok (some solution) ∧
      solution.error = none ∧ problemOf decayCall = .ok decayProblem ∧
      decayProblem.seed.x < decayProblem.xEnd ∧
      solution.trajectory.getLast? = some last ∧ last.x < decayProblem.xEnd := by
  obtain ⟨solution, hsolved, hok, hpoints⟩ := decayCall_solved 1
  have hsteps : min 1 (stepsBetween 0 1 (1 / 2)) = 1 := by norm_num [stepsBetween]
  have hrun : solution.trajectory = orbitUpTo decaySlope.value ⟨0, 1⟩ (1 / 2) 1 := by
    rw [hpoints, upTo_rational (by norm_num), Int.toNat_one, hsteps]
  have hlast : (orbit decaySlope.value ⟨0, 1⟩ (1 / 2) 1).x = 1 / 2 := by
    rw [orbit_x]
    norm_num
  refine ⟨solution, orbit decaySlope.value ⟨0, 1⟩ (1 / 2) 1, hsolved, hok, problemOf_decayCall,
    by norm_num [decayProblem], ?_, ?_⟩
  · rw [hrun, getLast?_orbitUpTo]
  · rw [hlast]
    norm_num [decayProblem]

end DirectionField.Proofs
