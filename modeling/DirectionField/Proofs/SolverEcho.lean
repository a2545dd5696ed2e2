import DirectionField.Proofs.SolverHistory

/-!
# The first line of an explanation

A solution is explained from its equation, written with a marker in front of the body. This line is
an equation itself: it compiles to the function that was run, and solving it gives the solution.
-/

namespace DirectionField.Proofs

section Compile

variable {ε α : Type} {C : Calculus ε α} {text : Option String} {f : Slope α}

/-- A body behind a marker compiles to the same function, but for the text that this was given as. -/
lemma compile_marked (h : C.compile text = .ok f) :
    C.compile (some (marked text)) = .ok { f with source := some (marked text) } := by
  rw [compile_ok_iff] at h ⊢
  rw [body_marked]
  obtain ⟨hbody, e, compute, hcheck, hcompute, rfl⟩ := h
  exact ⟨hbody, e, compute, hcheck, hcompute, rfl⟩

lemma body_of_compile (h : C.compile text = .ok f) : f.body = Equation.body text := by
  obtain ⟨-, e, compute, -, -, rfl⟩ := compile_ok_iff.mp h
  rfl

end Compile

section Calls

variable {ε α : Type} [Numeral α] {C : Calculus ε α} {s t : Solver α} {c : Solver.Call α}
  {solution : Solution α}

/-- The call with the body of its equation behind a marker. -/
def markedCall (c : Solver.Call α) : Solver.Call α :=
  { c with equation := some (marked c.equation) }

/-- A solution without an error holds the run of its function. -/
lemma solved_of_success (h : answer C s c = .ok (some solution)) (hok : solution.error = none) :
    ∃ f p r, C.compile c.equation = .ok f ∧ problemOf c = .ok p ∧
      Arithmetic.lt (Arithmetic.ofInt 0) p.h = true ∧ runOf s.maxSteps f p = .ok r ∧
      solution = solutionOf c p r := by
  obtain ⟨v, hv⟩ := exists_verdict C s.maxSteps c
  rw [answer_of_verdict hv] at h
  cases hv with
  | absent | notCompiled | notRead | notRun => cases h
  | rejected | refused =>
    cases h
    cases hok
  | solved f p r hc hp hh hr =>
    cases h
    exact ⟨f, p, r, hc, hp, hh, hr, rfl⟩

lemma solutionOf_marked (p : Solver.Problem α) (r : Run α) :
    solutionOf (markedCall c) p r = solutionOf c p r := by
  simp only [solutionOf, Solver.explanation, markedCall, Option.getD_some, body_marked, body_getD]

/-- A call that gives a solution without an error writes the body of its equation behind a marker as
the first line. This line compiles to a function with the same body, expression and values. Under
the same ceiling it gives the same solution with the same numbers, whatever the session has solved
before, and its marker is the only thing that its compilation takes off. -/
theorem solve_marked (h : answer C s c = .ok (some solution)) (hok : solution.error = none) :
    (solution.steps.head?.map (·.resultText) = some (marked c.equation)) ∧
    (∃ f g, C.compile c.equation = .ok f ∧ C.compile (some (marked c.equation)) = .ok g ∧
      f.body = Equation.body c.equation ∧ g.body = f.body ∧ g.expression = f.expression ∧
      ∀ x y, g.value x y = f.value x y ∧ g.evaluate x y = f.evaluate x y) ∧
    (∀ t : Solver α, t.maxSteps = s.maxSteps →
      answer C t (markedCall c) = .ok (some solution) ∧
      (t.step C (markedCall c)).solution = some solution) ∧
    (∀ text : Option String, Equation.body (some (marked text)) = Equation.body text) := by
  obtain ⟨f, p, r, hc, hp, hh, hr, rfl⟩ := solved_of_success h hok
  have hmarked := compile_marked hc
  refine ⟨?_, ?_, ?_, body_marked⟩
  · simp [solutionOf, Solver.explanation, Step.info, marked, body_getD]
  · exact ⟨f, _, hc, hmarked, body_of_compile hc, rfl, rfl, fun x y => ⟨rfl, rfl⟩⟩
  · intro t ht
    have hv : Reaches C t.maxSteps (markedCall c)
        (.replaced .ready _ (solutionOf (markedCall c) p r)) :=
      .solved _ p r hmarked hp hh (ht ▸ hr)
    rw [solutionOf_marked] at hv
    rw [answer_of_verdict hv, step_of_verdict hv]
    exact ⟨rfl, rfl⟩

end Calls

/-! ## An equation without a marker -/

/-- The equation `x` between blanks. -/
def spacedCall : Solver.Call Float := plainCall (some " x\n")

lemma spacedCall_solved : ∃ solution,
    answer Formula.calculus (Solver.fresh (.whole 10)) spacedCall = .ok (some solution) ∧
      solution.error = none := by
  obtain ⟨f, hf⟩ : ∃ f, Formula.calculus.compile spacedCall.equation = .ok f :=
    ok_of_isOk (by decide +kernel)
  have hstep : Arithmetic.lt (Arithmetic.ofInt 0) (0.5 : Float) = true := by decide +kernel
  obtain ⟨r, hr⟩ := runOf_returns signLaw_double 10 f (p := ⟨⟨0, 1⟩, 1, 0.5⟩) hstep
  have hv : Reaches Formula.calculus (.whole 10) spacedCall
      (.replaced .ready (some f) (solutionOf spacedCall ⟨⟨0, 1⟩, 1, 0.5⟩ r)) :=
    .solved f _ r hf rfl hstep hr
  exact ⟨_, answer_of_verdict (s := Solver.fresh (.whole 10)) hv, rfl⟩

/-- The spaced equation and the line that its solution begins with have the same solution. -/
theorem solve_marked_spaced : ∃ solution,
    answer Formula.calculus (Solver.fresh (.whole 10)) spacedCall = .ok (some solution) ∧
      solution.error = none ∧
      solution.steps.head?.map (·.resultText) = some "dy/dx = x" ∧
      answer Formula.calculus (Solver.fresh (.whole 10)) (markedCall spacedCall) =
        .ok (some solution) := by
  obtain ⟨solution, hsolved, hok⟩ := spacedCall_solved
  obtain ⟨hline, -, hagain, -⟩ := solve_marked hsolved hok
  have htext : marked spacedCall.equation = "dy/dx = x" := by decide
  rw [htext] at hline
  exact ⟨solution, hsolved, hok, hline, (hagain _ rfl).1⟩

end DirectionField.Proofs
