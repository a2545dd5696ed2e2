import DirectionField.Proofs.SolverHistory

/-!
# Stored solutions

What a solver session stores after any calls, returned or cut short, is nothing, or what one of them
gave: either a failed solution with one line of explanation, or the points of a run from the seed of
the call with four lines that tell of these points.
-/

namespace DirectionField.Proofs

open Text (compact6)

section Solutions

variable {α : Type}

/-- A failed solution: no points, and one line that tells the error. -/
structure IsFailure (t : Solution α) : Prop where
  trajectory : t.trajectory = []
  explained : ∃ line, t.steps = [line] ∧ line.index = 1 ∧ line.kind = Step.errorKind ∧
    t.error = some line.resultText

lemma isFailure_failed (message : String) : IsFailure (.failed message : Solution α) :=
  ⟨rfl, _, rfl, rfl, rfl, rfl⟩

variable [Numeral α]

/-- A solution under a ceiling: a run from the seed, and four lines, the second about the seed and
the fourth about the number of steps and points and the last point. -/
structure IsSuccess (ceiling : ℕ) (seed : Point α) (t : Solution α) : Prop where
  error : t.error = none
  start : t.trajectory.head? = some seed
  length_le : t.trajectory.length ≤ ceiling + 1
  numbered : t.steps.map (·.index) = [1, 2, 3, 4]
  informs : ∀ line ∈ t.steps, line.kind = Step.infoKind
  second : (t.steps[1]?).map (·.resultText) =
    some ("y(" ++ compact6 seed.x ++ ") = " ++ compact6 seed.y)
  fourth : ∃ last, t.trajectory.getLast? = some last ∧
    (t.steps[3]?).map (·.resultText) =
      some (toString (t.trajectory.length - 1) ++ " steps, " ++ toString t.trajectory.length ++
        " points; y(" ++ compact6 last.x ++ ") ≈ " ++ compact6 last.y)

lemma IsSuccess.not_isFailure {ceiling : ℕ} {seed : Point α} {t : Solution α}
    (h : IsSuccess ceiling seed t) : ¬ IsFailure t := by
  rintro ⟨-, line, -, -, -, herror⟩
  cases h.error.symm.trans herror

lemma head?_orbitUpTo (f : α → α → α) (seed : Point α) (h : α) (n : ℕ) :
    (orbitUpTo f seed h n).head? = some seed := by
  unfold orbitUpTo
  rw [List.range_succ_eq_map]
  rfl

lemma points_of_runOf {ceiling : ℕ} {f : Slope α} {p : Solver.Problem α} {r : Run α}
    (hr : runOf (.whole ceiling) f p = .ok r) :
    r.points.head? = some p.seed ∧ r.points.length ≤ ceiling + 1 := by
  obtain ⟨seed, e, w, n, hx, hy, -, -, -, hpoints, hextent⟩ := interval_extent hr
  have hn : n ≤ ceiling := (hextent _ (ceilingSteps_whole ..)).within
  rw [hpoints, length_orbitUpTo, head?_orbitUpTo, seed_unique (p := p.seed) rfl rfl hx hy]
  exact ⟨rfl, Nat.succ_le_succ hn⟩

lemma isSuccess_solutionOf {ceiling : ℕ} {f : Slope α} {c : Solver.Call α} {p : Solver.Problem α}
    {r : Run α} (hr : runOf (.whole ceiling) f p = .ok r) :
    IsSuccess ceiling p.seed (solutionOf c p r) := by
  obtain ⟨hstart, hlength⟩ := points_of_runOf hr
  have hne : r.points ≠ [] := by
    intro hnil
    rw [hnil] at hstart
    cases hstart
  have hlast : r.points.getLast? = some (r.points.getLast hne) := List.getLast?_eq_some_getLast hne
  constructor
  case error => rfl
  case start => exact hstart
  case length_le => exact hlength
  case numbered => rfl
  case informs => simp [solutionOf, Solver.explanation, Step.info]
  case second => rfl
  case fourth =>
    refine ⟨_, hlast, ?_⟩
    simp only [solutionOf, Solver.explanation, hlast]
    rfl

end Solutions

section Calls

variable {ε α : Type} [Numeral α] {C : Calculus ε α} {s : Solver α} {c : Solver.Call α}
  {t : Solution α} {ceiling : ℕ}

/-- A solution is one that a call can come to: it is failed when the equation is rejected or the step
is not above zero, and otherwise the run from the seed of the call. -/
structure Fits (C : Calculus ε α) (ceiling : ℕ) (c : Solver.Call α) (t : Solution α) : Prop where
  failure_iff : IsFailure t ↔ (∃ e, C.compile c.equation = .error (.rejected e)) ∨
    ∃ w, c.h.toNumber = .ok w ∧ Arithmetic.lt (Arithmetic.ofInt 0) w = false
  success : ¬ IsFailure t → ∃ seed : Point α, c.x₀.toNumber = .ok seed.x ∧
    c.y₀.toNumber = .ok seed.y ∧ IsSuccess ceiling seed t

lemma fits_of_verdict {stage : Stage} {function : Option (Slope α)}
    (hv : Reaches C (.whole ceiling) c (.replaced stage function t)) : Fits C ceiling c t := by
  cases hv with
  | rejected e hpresent hc =>
    have hfailure : IsFailure (.failed e.message : Solution α) := isFailure_failed e.message
    exact ⟨iff_of_true hfailure (.inl ⟨e, hc⟩), absurd hfailure⟩
  | refused f p hc hp hh =>
    have hfailure : IsFailure (refusal p.h) := isFailure_failed _
    obtain ⟨-, -, -, hstep⟩ := problem_ok_iff.mp hp
    exact ⟨iff_of_true hfailure (.inr ⟨p.h, hstep, hh⟩), absurd hfailure⟩
  | solved f p r hc hp hh hr =>
    have hsuccess : IsSuccess ceiling p.seed (solutionOf c p r) := isSuccess_solutionOf hr
    obtain ⟨hx, hy, -, hstep⟩ := problem_ok_iff.mp hp
    refine ⟨iff_of_false hsuccess.not_isFailure ?_, fun _ => ⟨p.seed, hx, hy, hsuccess⟩⟩
    rintro (⟨e, he⟩ | ⟨w, hw, hle⟩)
    · cases hc.symm.trans he
    · cases hstep.symm.trans hw
      cases hh.symm.trans hle

/-- A call with an equation that returns gives the solution that it stores. -/
lemma stored_of_ok {r : Option (Solution α)} (hs : s.maxSteps = .whole ceiling)
    (hpresent : Equation.isAbsent c.equation = false) (h : answer C s c = .ok r) :
    ∃ t, r = some t ∧ (s.step C c).solution = some t ∧ Fits C ceiling c t := by
  obtain ⟨stage, function, t, hv, hr, -⟩ := replaced_of_ok hpresent h
  refine ⟨t, hr, ?_, fits_of_verdict (hs ▸ hv)⟩
  rw [step_of_verdict hv]
  rfl

/-- The solution after a call is the one before it or the one that the call gives. -/
lemma kept_or_given (h : (s.step C c).solution = some t) :
    s.solution = some t ∨ answer C s c = .ok (some t) := by
  obtain ⟨v, hv⟩ := exists_verdict C s.maxSteps c
  rw [step_of_verdict hv] at h
  rw [answer_of_verdict hv]
  match v with
  | .nothing => exact .inl h
  | .replaced _ _ _ => exact .inr (congrArg Except.ok h)
  | .stopped none _ => exact .inl h
  | .stopped (some _) _ => exact .inl h

/-- The solution of a session is one that a call of the run gave. -/
lemma given_of_after {maxSteps : Datum α} {cs : List (Solver.Call α)}
    (h : ((Solver.fresh maxSteps).after C cs).solution = some t) :
    ∃ before c rest, cs = before ++ c :: rest ∧
      answer C ((Solver.fresh maxSteps).after C before) c = .ok (some t) := by
  -- on the last call: it gave the solution, or left that of the calls before it
  induction cs using List.reverseRecOn with
  | nil => cases h
  | append_singleton cs c ih =>
    rw [after_append] at h
    obtain hbefore | hgiven := kept_or_given h
    · obtain ⟨before, d, rest, rfl, hgiven⟩ := ih hbefore
      exact ⟨before, d, rest ++ [c], by simp, hgiven⟩
    · exact ⟨cs, c, [], rfl, hgiven⟩

lemma present_of_given (h : answer C s c = .ok (some t)) :
    Equation.isAbsent c.equation = false := by
  by_contra habsent
  have hnothing : Reaches C s.maxSteps c .nothing := .absent (Bool.eq_true_of_not_eq_false habsent)
  rw [answer_of_verdict hnothing] at h
  cases h

/-- After any calls, returned or cut short, the session holds no solution or the one that some call
of the run gave. This is either failed, with one line of explanation, or a run from the seed of the
call with four lines. A further call with an equation that returns gives the solution that it
stores, which is failed exactly when the equation is rejected or the step is not above zero; an
undefined double is not above zero. -/
theorem stored_solutions_fit (C : Calculus ε α) (ceiling : ℕ) (cs : List (Solver.Call α)) :
    (∀ t, ((Solver.fresh (.whole ceiling)).after C cs).solution = some t →
      ∃ before c rest, cs = before ++ c :: rest ∧
        answer C ((Solver.fresh (.whole ceiling)).after C before) c = .ok (some t) ∧
        (IsFailure t ∨ ∃ seed : Point α, c.x₀.toNumber = .ok seed.x ∧
          c.y₀.toNumber = .ok seed.y ∧ IsSuccess ceiling seed t)) ∧
    (∀ c r, Equation.isAbsent c.equation = false →
      answer C ((Solver.fresh (.whole ceiling)).after C cs) c = .ok r →
      ∃ t, r = some t ∧
        (((Solver.fresh (.whole ceiling)).after C cs).step C c).solution = some t ∧
        Fits C ceiling c t) ∧
    (∀ w : Float, Numeral.exact w = .undefined →
      Arithmetic.lt (Arithmetic.ofInt 0) w = false) := by
  refine ⟨?_, ?_, ?_⟩
  · intro t hstored
    obtain ⟨before, c, rest, hcs, hgiven⟩ := given_of_after hstored
    refine ⟨before, c, rest, hcs, hgiven, ?_⟩
    obtain ⟨t', ht, -, hfits⟩ :=
      stored_of_ok (maxSteps_after C _ before) (present_of_given hgiven) hgiven
    cases ht
    exact Classical.or_iff_not_imp_left.mpr hfits.success
  · intro c r hpresent hreturns
    exact stored_of_ok (maxSteps_after C _ cs) hpresent hreturns
  · intro w hw
    rw [zero_lt_double, hw]
    rfl

end Calls

/-! ## An undefined step -/

/-- The equation `x` with a step that is no number. -/
def undefinedCall : Solver.Call Float := ⟨some "x", .real 0, .real 1, .real 1, .real (0 / 0)⟩

lemma exact_undefined : Numeral.exact (0 / 0 : Float) = .undefined := by
  decide +kernel

lemma returns_of_x {c : Solver.Call Float} {p : Solver.Problem Float}
    (hc : c.equation = some "x") (hp : problemOf c = .ok p) :
    ∃ r, answer Formula.calculus (Solver.fresh (.whole 10)) c = .ok r := by
  obtain ⟨f, hf⟩ := compile_x
  refine returns_of_numbers signLaw_double rfl hp ?_
  simp [hc, hf]

/-- A fresh session gives and stores a failed solution for an undefined step, and for a step of one
half a run from the seed. -/
theorem stored_solutions_fit_undefined :
    (∃ t, answer Formula.calculus (Solver.fresh (.whole 10)) undefinedCall = .ok (some t) ∧
      ((Solver.fresh (.whole 10)).step Formula.calculus undefinedCall).solution = some t ∧
      IsFailure t) ∧
    ∃ t, answer Formula.calculus (Solver.fresh (.whole 10)) (plainCall (some "x")) = .ok (some t) ∧
      ((Solver.fresh (.whole 10)).step Formula.calculus (plainCall (some "x"))).solution = some t ∧
      IsSuccess 10 ⟨0, 1⟩ t := by
  obtain ⟨-, hcalls, hundefined⟩ := stored_solutions_fit Formula.calculus 10 []
  constructor
  · obtain ⟨r, hr⟩ := returns_of_x (c := undefinedCall) rfl rfl
    obtain ⟨t, rfl, hstored, hfits⟩ := hcalls undefinedCall r rfl hr
    have hle : Arithmetic.lt (Arithmetic.ofInt 0) (0 / 0 : Float) = false :=
      hundefined _ exact_undefined
    exact ⟨t, hr, hstored, hfits.failure_iff.mpr (.inr ⟨_, rfl, hle⟩)⟩
  · obtain ⟨r, hr⟩ := returns_of_x (c := plainCall (some "x")) rfl rfl
    obtain ⟨t, rfl, hstored, hfits⟩ := hcalls (plainCall (some "x")) r rfl hr
    have hpositive : Arithmetic.lt (Arithmetic.ofInt 0) (0.5 : Float) = true := by decide +kernel
    have hsucceeds : ¬ IsFailure t := by
      rw [hfits.failure_iff]
      rintro (⟨e, he⟩ | ⟨w, hw, hle⟩)
      · obtain ⟨f, hf⟩ := compile_x
        cases hf.symm.trans he
      · cases hw
        cases hpositive.symm.trans hle
    obtain ⟨seed, hx, hy, hsuccess⟩ := hfits.success hsucceeds
    have hseed : seed = (⟨0, 1⟩ : Point Float) := seed_unique hx hy rfl rfl
    exact ⟨t, hr, hstored, hseed ▸ hsuccess⟩

end DirectionField.Proofs
