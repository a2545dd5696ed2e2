import DirectionField.Proofs.SolverFaults

/-!
# The history of a solver session

What a call gives never depends on the calls before it. After calls that all return, the session is
the one that the last call with an equation leaves of a fresh session.
-/

namespace DirectionField.Proofs

section Blank

variable {α : Type}

/-- Calls are blank one and all, or one of them is the last with an equation. -/
lemma absent_or_last (cs : List (Solver.Call α)) :
    (∀ c ∈ cs, Equation.isAbsent c.equation = true) ∨
      ∃ before c rest, cs = before ++ c :: rest ∧ Equation.isAbsent c.equation = false ∧
        ∀ d ∈ rest, Equation.isAbsent d.equation = true := by
  induction cs with
  | nil => exact .inl fun c hc => by cases hc
  | cons c cs ih =>
    obtain hall | ⟨before, d, rest, rfl, hd, hrest⟩ := ih
    · cases hc : Equation.isAbsent c.equation with
      | true => exact .inl (List.forall_mem_cons.mpr ⟨hc, hall⟩)
      | false => exact .inr ⟨[], c, cs, rfl, hc, hall⟩
    · exact .inr ⟨c :: before, d, rest, rfl, hd, hrest⟩

end Blank

section Calls

variable {ε α : Type} [Numeral α] {C : Calculus ε α} {s t : Solver α} {c : Solver.Call α}

/-! ## One call -/

lemma maxSteps_step (C : Calculus ε α) (s : Solver α) (c : Solver.Call α) :
    (s.step C c).maxSteps = s.maxSteps := by
  obtain ⟨v, hv⟩ := exists_verdict C s.maxSteps c
  rw [step_of_verdict hv]
  rcases v with _ | _ | ⟨_ | _, _⟩ <;> rfl

lemma answer_congr (hst : s.maxSteps = t.maxSteps) : answer C s c = answer C t c := by
  obtain ⟨v, hv⟩ := exists_verdict C s.maxSteps c
  rw [answer_of_verdict hv, answer_of_verdict (hst ▸ hv)]

lemma step_of_absent (habsent : Equation.isAbsent c.equation = true) : s.step C c = s :=
  step_of_verdict (.absent habsent)

/-- A call with an equation that returns replaces stage, function and solution, and the session has
no function exactly when the equation was rejected. -/
lemma replaced_of_ok {r : Option (Solution α)} (hpresent : Equation.isAbsent c.equation = false)
    (h : answer C s c = .ok r) :
    ∃ stage function solution,
      Reaches C s.maxSteps c (.replaced stage function solution) ∧ r = some solution ∧
        (stage = .compileError ↔ function = none) := by
  obtain ⟨v, hv⟩ := exists_verdict C s.maxSteps c
  rw [answer_of_verdict hv] at h
  cases hv with
  | absent habsent => cases hpresent.symm.trans habsent
  | notCompiled | notRead | notRun => cases h
  | rejected e _ hc =>
    cases h
    exact ⟨_, _, _, .rejected e hpresent hc, rfl, by simp⟩
  | refused f p hc hp hh =>
    cases h
    exact ⟨_, _, _, .refused f p hc hp hh, rfl, by simp⟩
  | solved f p r hc hp hh hr =>
    cases h
    exact ⟨_, _, _, .solved f p r hc hp hh hr, rfl, by simp⟩

/-- A call with an equation that returns leaves nothing of the session but its ceiling. -/
lemma step_congr {r : Option (Solution α)} (hpresent : Equation.isAbsent c.equation = false)
    (h : answer C s c = .ok r) (hst : s.maxSteps = t.maxSteps) : s.step C c = t.step C c := by
  obtain ⟨stage, function, solution, hv, -, -⟩ := replaced_of_ok hpresent h
  rw [step_of_verdict hv, step_of_verdict (hst ▸ hv), Verdict.session, Verdict.session, hst]

/-! ## Runs -/

lemma maxSteps_after (C : Calculus ε α) (s : Solver α) (cs : List (Solver.Call α)) :
    (s.after C cs).maxSteps = s.maxSteps := by
  induction cs generalizing s with
  | nil => rfl
  | cons c cs ih => exact (ih (s.step C c)).trans (maxSteps_step C s c)

lemma after_append (C : Calculus ε α) (s : Solver α) (cs ds : List (Solver.Call α)) :
    s.after C (cs ++ ds) = (s.after C cs).after C ds :=
  List.foldl_append

lemma after_of_absent {cs : List (Solver.Call α)}
    (habsent : ∀ c ∈ cs, Equation.isAbsent c.equation = true) : s.after C cs = s := by
  induction cs with
  | nil => rfl
  | cons c cs ih =>
    have hstep : s.step C c = s := step_of_absent (habsent c List.mem_cons_self)
    rw [Solver.after, List.foldl_cons, hstep]
    exact ih fun d hd => habsent d (List.mem_cons_of_mem c hd)

/-- Every call of a run returns. -/
def EachReturns (C : Calculus ε α) : Solver α → List (Solver.Call α) → Prop
  | _, [] => True
  | s, c :: cs => (∃ r, answer C s c = .ok r) ∧ EachReturns C (s.step C c) cs

lemma EachReturns.of_append {cs ds : List (Solver.Call α)} (h : EachReturns C s (cs ++ ds)) :
    EachReturns C (s.after C cs) ds := by
  induction cs generalizing s with
  | nil => exact h
  | cons c cs ih => exact ih h.2

/-- Blank calls after a call with an equation: the session is that of this call alone. -/
lemma after_eq_step {before rest : List (Solver.Call α)}
    (h : EachReturns C s (before ++ c :: rest)) (hpresent : Equation.isAbsent c.equation = false)
    (hrest : ∀ d ∈ rest, Equation.isAbsent d.equation = true) :
    s.after C (before ++ c :: rest) = (Solver.fresh s.maxSteps).step C c := by
  obtain ⟨⟨r, hr⟩, -⟩ := h.of_append
  calc s.after C (before ++ c :: rest)
    _ = ((s.after C before).step C c).after C rest := after_append C s before (c :: rest)
    _ = (s.after C before).step C c := after_of_absent hrest
    _ = (Solver.fresh s.maxSteps).step C c := step_congr hpresent hr (maxSteps_after C s before)

lemma compileError_iff {cs : List (Solver.Call α)} {maxSteps : Datum α}
    (h : EachReturns C (Solver.fresh maxSteps) cs) :
    ((Solver.fresh maxSteps).after C cs).stage = .compileError ↔
      ((Solver.fresh maxSteps).after C cs).function = none ∧
        ∃ c ∈ cs, Equation.isAbsent c.equation = false := by
  obtain hall | ⟨before, c, rest, rfl, hpresent, hrest⟩ := absent_or_last cs
  · rw [after_of_absent hall]
    refine iff_of_false Stage.noConfusion ?_
    rintro ⟨-, c, hc, hpresent⟩
    cases hpresent.symm.trans (hall c hc)
  · obtain ⟨⟨r, hr⟩, -⟩ := h.of_append
    rw [answer_congr (maxSteps_after C _ before)] at hr
    obtain ⟨stage, function, solution, hv, -, hiff⟩ := replaced_of_ok hpresent hr
    have hafter : (Solver.fresh maxSteps).after C (before ++ c :: rest) =
        (Solver.fresh maxSteps).step C c := after_eq_step h hpresent hrest
    rw [hafter, step_of_verdict hv]
    constructor
    · intro hstage
      exact ⟨hiff.mp hstage, c, List.mem_append_right before List.mem_cons_self, hpresent⟩
    · rintro ⟨hfunction, -⟩
      exact hiff.mpr hfunction

/-- After calls that all return, the session is a fresh one that has done only the last call with an
equation, or done nothing when all calls were blank; it tells of a rejected equation exactly when it
has no function and some call had an equation. A blank call changes nothing, and what a call gives is
what it gives in a fresh session. -/
theorem after_eq_last_call {maxSteps : Datum α} {cs : List (Solver.Call α)}
    (h : EachReturns C (Solver.fresh maxSteps) cs) :
    (∀ before c rest, cs = before ++ c :: rest → Equation.isAbsent c.equation = false →
      (∀ d ∈ rest, Equation.isAbsent d.equation = true) →
      (Solver.fresh maxSteps).after C cs = (Solver.fresh maxSteps).after C [c]) ∧
    ((∀ c ∈ cs, Equation.isAbsent c.equation = true) →
      (Solver.fresh maxSteps).after C cs = Solver.fresh maxSteps) ∧
    (((Solver.fresh maxSteps).after C cs).stage = .compileError ↔
      ((Solver.fresh maxSteps).after C cs).function = none ∧
        ∃ c ∈ cs, Equation.isAbsent c.equation = false) ∧
    (∀ c, Equation.isAbsent c.equation = true →
      ((Solver.fresh maxSteps).after C cs).step C c = (Solver.fresh maxSteps).after C cs) ∧
    (∀ c, answer C ((Solver.fresh maxSteps).after C cs) c =
      answer C (Solver.fresh maxSteps) c) := by
  refine ⟨?_, after_of_absent, compileError_iff h, fun _ => step_of_absent, ?_⟩
  · rintro before c rest rfl hpresent hrest
    exact after_eq_step h hpresent hrest
  · intro c
    exact answer_congr (maxSteps_after C _ cs)

end Calls

/-! ## A rejected equation before another one -/

/-- A call with numbers for an equation. -/
def plainCall (equation : Option String) : Solver.Call Float :=
  ⟨equation, .real 0, .real 1, .real 1, .real 0.5⟩

lemma plainCalls_return {s : Solver Float} {ceiling : ℤ} (hs : s.maxSteps = .whole ceiling)
    {equations : List (Option String)}
    (hc : ∀ e ∈ equations, ∀ fault, Formula.calculus.compile e ≠ .error (.fault fault)) :
    EachReturns Formula.calculus s (equations.map plainCall) := by
  induction equations generalizing s with
  | nil => trivial
  | cons e equations ih =>
    rw [List.forall_mem_cons] at hc
    exact ⟨returns_of_numbers signLaw_double hs rfl hc.1, ih ((maxSteps_step ..).trans hs) hc.2⟩

lemma compile_sum_rejected : ∃ e, Formula.calculus.compile (some "x +") = .error (.rejected e) := by
  have hcheck : (match Formula.calculus.compile (some "x +") with
      | .error (.rejected _) => true
      | _ => false) = true := by
    decide +kernel
  split at hcheck
  · rename_i e hc
    exact ⟨e, hc⟩
  · cases hcheck

/-- A rejected equation, the equation `x` and a blank one: the session is that of `x` alone. -/
theorem after_eq_last_call_x :
    EachReturns Formula.calculus (Solver.fresh (.whole 10))
      [plainCall (some "x +"), plainCall (some "x"), plainCall none] ∧
    (Solver.fresh (.whole 10)).after Formula.calculus
        [plainCall (some "x +"), plainCall (some "x"), plainCall none] =
      (Solver.fresh (.whole 10)).after Formula.calculus [plainCall (some "x")] := by
  have hreturns : EachReturns Formula.calculus (Solver.fresh (.whole 10))
      ([some "x +", some "x", none].map plainCall) := by
    refine plainCalls_return rfl ?_
    obtain ⟨e, he⟩ := compile_sum_rejected
    obtain ⟨f, hf⟩ := compile_x
    have hnone : Formula.calculus.compile none = .error (.rejected ⟨"", .empty⟩) := rfl
    simp [he, hf, hnone]
  refine ⟨hreturns, ?_⟩
  exact (after_eq_last_call hreturns).1 [plainCall (some "x +")] (plainCall (some "x"))
    [plainCall none] rfl rfl (by simp [plainCall, Equation.isAbsent])

end DirectionField.Proofs
