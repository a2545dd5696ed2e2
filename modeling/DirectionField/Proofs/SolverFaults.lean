import DirectionField.Proofs.CompileFaults
import DirectionField.Proofs.Doubles
import DirectionField.Proofs.RunAgreement

/-!
# Calls of the solver that are cut short

A call under a whole ceiling is cut short exactly when the compilation of its equation meets a fault
or one of its numbers cannot be read. The solution that the session holds stays. An equation that is
compiled by then stays with the session as well, next to the solution of an earlier one.
-/

namespace DirectionField.Proofs

/-- What is asked of the arithmetic: a number is found to be above zero when its exact value is. -/
structure SignLaw (α : Type) [Numeral α] : Prop where
  zero_lt_iff : ∀ w : α, Arithmetic.lt (Arithmetic.ofInt 0) w = true ↔ IsPositive w

lemma signLaw_double : SignLaw Float where
  zero_lt_iff w := by rw [zero_lt_double, IsPositive]

section Calls

variable {ε α : Type} [Numeral α] {C : Calculus ε α} {s : Solver α} {c : Solver.Call α}

lemma runOf_returns (law : SignLaw α) (ceiling : ℤ) (f : Slope α) {p : Solver.Problem α}
    (hh : Arithmetic.lt (Arithmetic.ofInt 0) p.h = true) :
    ∃ r, runOf (.whole ceiling) f p = .ok r := by
  have hstep := (checkStep_real p.h).mpr ((law.zero_lt_iff p.h).mp hh)
  exact interval_returns hstep rfl rfl rfl rfl ceiling

lemma answer_error_iff (law : SignLaw α) {ceiling : ℤ} (hs : s.maxSteps = .whole ceiling) :
    (∃ fault, answer C s c = .error fault) ↔
      (∃ fault, C.compile c.equation = .error (.fault fault)) ∨
        ∃ f fault, C.compile c.equation = .ok f ∧ problemOf c = .error fault := by
  obtain ⟨v, hv⟩ := exists_verdict C s.maxSteps c
  rw [answer_of_verdict hv]
  rw [hs] at hv
  cases hv with
  | absent habsent => simp [Verdict.answer, compile_of_absent C habsent]
  | rejected e hpresent hc => simp [Verdict.answer, hc]
  | notCompiled fault hc => simp [Verdict.answer, hc]
  | notRead f fault hc hp => simp [Verdict.answer, hc, hp]
  | refused f p hc hp hh => simp [Verdict.answer, hc, hp]
  | notRun f p fault hc hp hh hr =>
    obtain ⟨r, hr'⟩ := runOf_returns law ceiling f hh
    cases hr.symm.trans hr'
  | solved f p r hc hp hh hr => simp [Verdict.answer, hc, hp]

/-- A call with readable numbers returns unless the compilation of its equation meets a fault. -/
lemma returns_of_numbers (law : SignLaw α) {ceiling : ℤ} (hs : s.maxSteps = .whole ceiling)
    {p : Solver.Problem α} (hp : problemOf c = .ok p)
    (hc : ∀ fault, C.compile c.equation ≠ .error (.fault fault)) :
    ∃ r, answer C s c = .ok r := by
  cases ha : answer C s c with
  | ok r => exact ⟨r, rfl⟩
  | error fault =>
    obtain ⟨fault', hfault⟩ | ⟨f, fault', -, hproblem⟩ := (answer_error_iff law hs).mp ⟨fault, ha⟩
    · cases hc fault' hfault
    · cases hp.symm.trans hproblem

/-- A call that is cut short reaches the verdict that says so, with the function of its equation if
this was compiled. -/
lemma stopped_of_error {fault : Fault} (h : answer C s c = .error fault) :
    ∃ function, Reaches C s.maxSteps c (.stopped function fault) ∧
      ∀ f, C.compile c.equation = .ok f ↔ function = some f := by
  obtain ⟨v, hv⟩ := exists_verdict C s.maxSteps c
  rw [answer_of_verdict hv] at h
  cases hv with
  | absent | rejected | refused | solved => cases h
  | notCompiled fault' hc =>
    cases h
    exact ⟨none, .notCompiled fault hc, by simp [hc]⟩
  | notRead f fault' hc hp =>
    cases h
    exact ⟨some f, .notRead f fault hc hp, by simp [hc]⟩
  | notRun f p fault' hc hp hh hr =>
    cases h
    exact ⟨some f, .notRun f p fault hc hp hh hr, by simp [hc]⟩

/-- A call that is cut short leaves the solution of the session, and its function too unless the
equation was compiled. The function of an equation that was compiled stays with the session, which is
ready with it; so the call leaves the session as it was exactly if it held this function and was
ready before. -/
theorem solution_kept_by_fault {fault : Fault} (h : answer C s c = .error fault) :
    (s.step C c).solution = s.solution ∧ (s.step C c).maxSteps = s.maxSteps ∧
    ((∀ f, C.compile c.equation ≠ .ok f) → (s.step C c).function = s.function) ∧
    (∀ f, C.compile c.equation = .ok f →
      (s.step C c).function = some f ∧ (s.step C c).stage = .ready ∧
      (s.step C c = s ↔ s.function = some f ∧ s.stage = .ready)) := by
  obtain ⟨function, hv, hfunction⟩ := stopped_of_error h
  rw [step_of_verdict hv]
  cases function with
  | none =>
    refine ⟨rfl, rfl, fun _ => rfl, ?_⟩
    intro f hf
    cases (hfunction f).mp hf
  | some g =>
    refine ⟨rfl, rfl, fun hnot => absurd ((hfunction g).mpr rfl) (hnot g), ?_⟩
    intro f hf
    cases (hfunction f).mp hf
    refine ⟨rfl, rfl, ?_⟩
    constructor
    · intro hs
      rw [← hs]
      exact ⟨rfl, rfl⟩
    · rintro ⟨hs, hstage⟩
      simp only [Verdict.session, ← hs, ← hstage]

end Calls

/-! ## An ordinate that is no number -/

/-- The equation `x` with a text in the place of the ordinate. -/
def textCall : Solver.Call Float := ⟨some "x", .real 0, .text "abc", .real 1, .real 0.1⟩

lemma problemOf_textCall : problemOf textCall = .error .unreadable := by
  have hread : (Numeral.read? "abc" : Option Float) = none := by decide +kernel
  have htext : (Datum.text "abc" : Datum Float).toNumber = .error .unreadable := by
    rw [Datum.toNumber, hread]
    rfl
  have hproblem : problemOf textCall =
      ((Datum.text "abc" : Datum Float).toNumber >>= fun y => .ok ⟨⟨0, y⟩, 1, 0.1⟩) := rfl
  rw [hproblem, htext]
  rfl

lemma answer_textCall (s : Solver Float) : ∃ f, Formula.calculus.compile (some "x") = .ok f ∧
    answer Formula.calculus s textCall = .error .unreadable ∧
    s.step Formula.calculus textCall = { s with function := some f, stage := .ready } := by
  obtain ⟨f, hf⟩ := compile_x
  have hv : Reaches Formula.calculus s.maxSteps textCall (.stopped (some f) .unreadable) :=
    .notRead f _ hf problemOf_textCall
  exact ⟨f, hf, answer_of_verdict hv, step_of_verdict hv⟩

/-- A session that has solved nothing is ready with the function of `x` after a call that is cut
short, and holds no solution. -/
theorem solution_kept_by_fault_text :
    answer Formula.calculus (Solver.fresh (.whole 10)) textCall = .error .unreadable ∧
    ((Solver.fresh (.whole 10)).step Formula.calculus textCall).solution = none ∧
    ∃ f, Formula.calculus.compile (some "x") = .ok f ∧
      ((Solver.fresh (.whole 10)).step Formula.calculus textCall).function = some f ∧
      ((Solver.fresh (.whole 10)).step Formula.calculus textCall).stage = .ready := by
  obtain ⟨f, hf, hanswer, -⟩ := answer_textCall (Solver.fresh (.whole 10))
  obtain ⟨hsolution, -, -, hcompiled⟩ := solution_kept_by_fault hanswer
  exact ⟨hanswer, hsolution, f, hf, (hcompiled f hf).1, (hcompiled f hf).2.1⟩

/-- A call that is cut short can change stage and function. -/
theorem unread_ordinate_changes_session :
    ∃ s : Solver Float, s = Solver.fresh (.whole 10) ∧
      answer Formula.calculus s textCall = .error .unreadable ∧
      (s.step Formula.calculus textCall).stage ≠ s.stage ∧
      (s.step Formula.calculus textCall).function ≠ s.function := by
  obtain ⟨f, -, hanswer, hstep⟩ := answer_textCall (Solver.fresh (.whole 10))
  refine ⟨_, rfl, hanswer, ?_, ?_⟩
  · rw [hstep]
    exact Stage.noConfusion
  · rw [hstep]
    exact Option.some_ne_none f

end DirectionField.Proofs
