import DirectionField.Solver
import DirectionField.Proofs.EquationTexts
import DirectionField.Proofs.RunExtent

/-!
# What a call of the solver does

A call with an equation that compiles reads its numbers and then either rejects the step or runs
over the interval.
-/

namespace DirectionField.Proofs

/-- A blank equation has an empty body, which is rejected. -/
lemma compile_of_absent {ε α : Type} (C : Calculus ε α) {text : Option String}
    (h : Equation.isAbsent text = true) :
    C.compile text = .error (.rejected ⟨text.getD "", .empty⟩) := by
  rw [Calculus.compile, body_of_absent h]
  rfl

lemma present_of_not_rejected {ε α : Type} (C : Calculus ε α) {text : Option String}
    (hc : ∀ e, C.compile text ≠ .error (.rejected e)) : Equation.isAbsent text = false := by
  by_contra hne
  exact hc _ (compile_of_absent C (Bool.eq_true_of_not_eq_false hne))

lemma present_of_compiles {ε α : Type} {C : Calculus ε α} {text : Option String} {f : Slope α}
    (hc : C.compile text = .ok f) : Equation.isAbsent text = false :=
  present_of_not_rejected C (by simp [hc])

section Solve

variable {ε α : Type} [Numeral α] {C : Calculus ε α} {s : Solver α} {text : Option String}
  {f : Slope α} {x₀ y₀ xEnd h : Datum α}

lemma solve_of_absent (habsent : Equation.isAbsent text = true) :
    s.solve C text x₀ y₀ xEnd h = ⟨s, .ok none, [.equationAbsent]⟩ := by
  rw [Solver.solve, habsent]
  rfl

lemma solve_of_rejected {e : EquationError} (hpresent : Equation.isAbsent text = false)
    (hc : C.compile text = .error (.rejected e)) :
    s.solve C text x₀ y₀ xEnd h =
      ⟨{ s with function := none }.fail e.message .compileError, .ok (some (.failed e.message)),
        [.equationRejected e.message]⟩ := by
  rw [Solver.solve, hpresent]
  simp only [hc]
  rfl

lemma solve_of_fault {fault : Fault} (hc : C.compile text = .error (.fault fault)) :
    s.solve C text x₀ y₀ xEnd h = ⟨{ s with stage := .compiling }, .error fault, []⟩ := by
  have hpresent : Equation.isAbsent text = false := present_of_not_rejected C (by simp [hc])
  rw [Solver.solve, hpresent]
  simp only [hc]
  rfl

lemma solve_of_compiles (hc : C.compile text = .ok f) :
    s.solve C text x₀ y₀ xEnd h =
      Solver.run { s with function := some f, stage := .ready } (text.getD "") f x₀ y₀ xEnd h := by
  unfold Solver.solve
  rw [present_of_compiles hc]
  dsimp only
  rw [hc]
  rfl

lemma problem_ok_iff {p : Solver.Problem α} :
    Solver.problem x₀ y₀ xEnd h = .ok p ↔
      x₀.toNumber = .ok p.seed.x ∧ y₀.toNumber = .ok p.seed.y ∧ xEnd.toNumber = .ok p.xEnd ∧
        h.toNumber = .ok p.h := by
  unfold Solver.problem
  simp only [bind_eq_ok]
  constructor
  · rintro ⟨x, hx, y, hy, e, he, w, hw, hp⟩
    cases hp
    exact ⟨hx, hy, he, hw⟩
  · rintro ⟨hx, hy, he, hw⟩
    exact ⟨_, hx, _, hy, _, he, _, hw, rfl⟩

/-- A solution holds the points of an interval run, unless the step is rejected. -/
lemma trajectory_of_run {equation : String} {solution : Solution α}
    (hr : (s.run equation f x₀ y₀ xEnd h).result = .ok (some solution)) :
    ∃ p, Solver.problem x₀ y₀ xEnd h = .ok p ∧
      (solution.trajectory = [] ∨ ∃ r, Run.interval f.value (.real p.seed.x) (.real p.seed.y)
        (.real p.xEnd) (.real p.h) s.maxSteps = .ok r ∧ solution.trajectory = r.points) := by
  unfold Solver.run at hr
  split at hr
  · cases hr
  · rename_i p hp
    refine ⟨p, hp, ?_⟩
    split at hr
    · cases hr
      exact .inl rfl
    · split at hr
      · cases hr
      · rename_i r hrun
        cases hr
        exact .inr ⟨r, hrun, rfl⟩

lemma solve_returns (hc : C.compile text = .ok f) {p : Solver.Problem α} {r : Run α}
    (hp : Solver.problem x₀ y₀ xEnd h = .ok p)
    (hr : Run.interval f.value (.real p.seed.x) (.real p.seed.y) (.real p.xEnd) (.real p.h)
      s.maxSteps = .ok r) :
    ∃ solution, (s.solve C text x₀ y₀ xEnd h).result = .ok (some solution) := by
  rw [solve_of_compiles hc]
  unfold Solver.run
  simp only [hp, hr]
  split <;> exact ⟨_, rfl⟩

end Solve

/-! ## Verdicts

What a call does to a session is decided by its parameters and the ceiling alone. -/

/-- What a call comes to: the session keeps everything, has stage, function and solution replaced,
or is left by a fault, with the function that was compiled by then. -/
inductive Verdict (α : Type) where
  | nothing
  | replaced (stage : Stage) (function : Option (Slope α)) (solution : Solution α)
  | stopped (function : Option (Slope α)) (fault : Fault)

namespace Verdict

variable {α : Type}

/-- The session after a call of this verdict. -/
def session (s : Solver α) : Verdict α → Solver α
  | .nothing => s
  | .replaced stage function solution => ⟨s.maxSteps, stage, function, some solution⟩
  | .stopped none _ => { s with stage := .compiling }
  | .stopped (some f) _ => { s with function := some f, stage := .ready }

/-- What a call of this verdict gives. -/
def answer : Verdict α → Except Fault (Option (Solution α))
  | .nothing => .ok none
  | .replaced _ _ solution => .ok (some solution)
  | .stopped _ fault => .error fault

end Verdict

section Calls

variable {ε α : Type} [Numeral α]

/-- What a call gives. -/
def answer (C : Calculus ε α) (s : Solver α) (c : Solver.Call α) :
    Except Fault (Option (Solution α)) :=
  (s.solve C c.equation c.x₀ c.y₀ c.xEnd c.h).result

/-- The numbers of a call. -/
def problemOf (c : Solver.Call α) : Except Fault (Solver.Problem α) :=
  Solver.problem c.x₀ c.y₀ c.xEnd c.h

/-- The run of a problem under a ceiling. -/
def runOf (ceiling : Datum α) (f : Slope α) (p : Solver.Problem α) : Except Fault (Run α) :=
  Run.interval f.value (.real p.seed.x) (.real p.seed.y) (.real p.xEnd) (.real p.h) ceiling

/-- The failed solution of a step that is not positive. -/
def refusal (h : α) : Solution α :=
  .failed ("Step size must be positive, got " ++ Text.compact6 h ++ ".")

/-- The solution that holds a run. -/
def solutionOf (c : Solver.Call α) (p : Solver.Problem α) (r : Run α) : Solution α :=
  ⟨r.points, Solver.explanation (c.equation.getD "") p r, none⟩

/-- How a call comes to its verdict. -/
inductive Reaches (C : Calculus ε α) (ceiling : Datum α) (c : Solver.Call α) : Verdict α → Prop
  | absent (habsent : Equation.isAbsent c.equation = true) : Reaches C ceiling c .nothing
  | rejected (e : EquationError) (hpresent : Equation.isAbsent c.equation = false)
      (hc : C.compile c.equation = .error (.rejected e)) :
      Reaches C ceiling c (.replaced .compileError none (.failed e.message))
  | notCompiled (fault : Fault) (hc : C.compile c.equation = .error (.fault fault)) :
      Reaches C ceiling c (.stopped none fault)
  | notRead (f : Slope α) (fault : Fault) (hc : C.compile c.equation = .ok f)
      (hp : problemOf c = .error fault) : Reaches C ceiling c (.stopped (some f) fault)
  | refused (f : Slope α) (p : Solver.Problem α) (hc : C.compile c.equation = .ok f)
      (hp : problemOf c = .ok p) (hh : Arithmetic.lt (Arithmetic.ofInt 0) p.h = false) :
      Reaches C ceiling c (.replaced .ready (some f) (refusal p.h))
  | notRun (f : Slope α) (p : Solver.Problem α) (fault : Fault)
      (hc : C.compile c.equation = .ok f) (hp : problemOf c = .ok p)
      (hh : Arithmetic.lt (Arithmetic.ofInt 0) p.h = true)
      (hr : runOf ceiling f p = .error fault) : Reaches C ceiling c (.stopped (some f) fault)
  | solved (f : Slope α) (p : Solver.Problem α) (r : Run α) (hc : C.compile c.equation = .ok f)
      (hp : problemOf c = .ok p) (hh : Arithmetic.lt (Arithmetic.ofInt 0) p.h = true)
      (hr : runOf ceiling f p = .ok r) :
      Reaches C ceiling c (.replaced .ready (some f) (solutionOf c p r))

variable {C : Calculus ε α} {s : Solver α} {c : Solver.Call α} {v : Verdict α}

lemma exists_verdict (C : Calculus ε α) (ceiling : Datum α) (c : Solver.Call α) :
    ∃ v, Reaches C ceiling c v := by
  cases hc : C.compile c.equation with
  | error e =>
    cases e with
    | fault fault => exact ⟨_, .notCompiled fault hc⟩
    | rejected e =>
      cases habsent : Equation.isAbsent c.equation with
      | true => exact ⟨_, .absent habsent⟩
      | false => exact ⟨_, .rejected e habsent hc⟩
  | ok f =>
    cases hp : problemOf c with
    | error fault => exact ⟨_, .notRead f fault hc hp⟩
    | ok p =>
      cases hh : Arithmetic.lt (Arithmetic.ofInt 0) p.h with
      | false => exact ⟨_, .refused f p hc hp hh⟩
      | true =>
        cases hr : runOf ceiling f p with
        | error fault => exact ⟨_, .notRun f p fault hc hp hh hr⟩
        | ok r => exact ⟨_, .solved f p r hc hp hh hr⟩

lemma solve_of_verdict (h : Reaches C s.maxSteps c v) :
    ∃ events, s.solve C c.equation c.x₀ c.y₀ c.xEnd c.h = ⟨v.session s, v.answer, events⟩ := by
  cases h with
  | absent habsent => exact ⟨_, solve_of_absent habsent⟩
  | rejected e hpresent hc => exact ⟨_, solve_of_rejected hpresent hc⟩
  | notCompiled fault hc => exact ⟨_, solve_of_fault hc⟩
  | notRead f fault hc hp =>
    unfold problemOf at hp
    rw [solve_of_compiles hc, Solver.run, hp]
    exact ⟨_, rfl⟩
  | refused f p hc hp hh =>
    unfold problemOf at hp
    rw [solve_of_compiles hc, Solver.run, hp]
    simp only [hh, Bool.not_false, if_true]
    exact ⟨_, rfl⟩
  | notRun f p fault hc hp hh hr =>
    unfold problemOf at hp
    unfold runOf at hr
    rw [solve_of_compiles hc, Solver.run, hp]
    simp only [hh, Bool.not_true, Bool.false_eq_true, if_false, hr]
    exact ⟨_, rfl⟩
  | solved f p r hc hp hh hr =>
    unfold problemOf at hp
    unfold runOf at hr
    rw [solve_of_compiles hc, Solver.run, hp]
    simp only [hh, Bool.not_true, Bool.false_eq_true, if_false, hr]
    exact ⟨_, rfl⟩

lemma step_of_verdict (h : Reaches C s.maxSteps c v) : s.step C c = v.session s := by
  obtain ⟨events, hsolve⟩ := solve_of_verdict h
  rw [Solver.step, hsolve]

lemma answer_of_verdict (h : Reaches C s.maxSteps c v) : answer C s c = v.answer := by
  obtain ⟨events, hsolve⟩ := solve_of_verdict h
  rw [answer, hsolve]

end Calls

end DirectionField.Proofs
