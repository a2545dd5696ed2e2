import DirectionField.Proofs.CompileFaults
import DirectionField.Proofs.FieldOperations

/-!
# Stage, equation and function

The stage of a field session tells what its function is to its equation. It does so after a run of
commands unless the equation that was set last cannot be compiled for another reason than that it is
rejected. Such an equation is taken over with the stage of a compilation that never ends, next to
the function that was there before.
-/

namespace DirectionField.Proofs

/-! ## Coherence -/

section Coherence

variable {ε α : Type} [Numeral α]

/-- The stage of the session tells what its function is: none, that of the equation, or the flat
one in the place of the equation. -/
structure Coherent (C : Calculus ε α) (s : Field α) : Prop where
  idle : s.stage = .idle ↔ s.function = none
  ready : s.stage = .ready ↔
    ∃ f, s.function = some f ∧ f.isFallback = false ∧ C.compile (some s.equation) = .ok f
  compileError : s.stage = .compileError ↔
    ∃ e : EquationError, C.compile (some s.equation) = .error (.rejected e) ∧
      s.function = some (.flat (some s.equation) e.message)
  settled : s.stage ≠ .compiling

/-- The states that a session can be in: no equation was set, the last one was taken over, or its
compilation was cut short. -/
inductive Tracked (C : Calculus ε α) (s : Field α) : Prop
  | untouched (hstage : s.stage = .idle) (hfunction : s.function = none)
      (hequation : s.equation = "")
  | settled (f : Slope α) (rejected : Option EquationError)
      (hcompiled : C.compileOrFlat (some s.equation) = .ok (f, rejected))
      (hfunction : s.function = some f) (hstage : s.stage = settledStage f)
  | cutShort (e : Fault) (hcompiled : C.compileOrFlat (some s.equation) = .error e)
      (hstage : s.stage = .compiling)

variable {C : Calculus ε α} {s t : Field α}

/-! ## The states of a session -/

lemma Tracked.of_sameEquation (h : Tracked C s) (hst : SameEquation s t) : Tracked C t := by
  cases h with
  | untouched hstage hfunction hequation =>
    exact .untouched (hst.stage.trans hstage) (hst.function.trans hfunction)
      (hst.equation.trans hequation)
  | settled f rejected hcompiled hfunction hstage =>
    rw [← hst.equation] at hcompiled
    exact .settled f rejected hcompiled (hst.function.trans hfunction) (hst.stage.trans hstage)
  | cutShort e hcompiled hstage =>
    rw [← hst.equation] at hcompiled
    exact .cutShort e hcompiled (hst.stage.trans hstage)

lemma setEquation_tracked (C : Calculus ε α) (s : Field α) (raw : Option String) :
    Tracked C (s.setEquation C raw).session := by
  cases h : C.compileOrFlat (some (raw.getD "")) with
  | error e =>
    rw [(setEquation_of_error C s raw h).2]
    exact .cutShort e h rfl
  | ok p =>
    rw [(setEquation_of_ok C s raw h).2]
    exact .settled p.1 p.2 h rfl rfl

lemma Tracked.ensureCompiled (h : Tracked C s) : Tracked C (s.ensureCompiled C).session := by
  cases hf : s.function with
  | none =>
    rw [ensureCompiled_of_none C s hf]
    exact setEquation_tracked C s _
  | some f =>
    rw [(ensureCompiled_of_some C s hf).2]
    exact h

lemma Tracked.step (h : Tracked C s) (c : Field.Command α) : Tracked C (s.step C c) := by
  cases c with
  | setEquation raw => exact setEquation_tracked C s raw
  | addCurve x₀ y₀ => exact h.ensureCompiled.of_sameEquation addCurve_sameEquation
  | sample bounds density =>
    rw [Field.step, session_sample]
    exact h.ensureCompiled
  | setSettings | removeCurve | clearCurves | curves | summaries =>
    exact h.of_sameEquation ⟨rfl, rfl, rfl⟩

lemma Tracked.after (h : Tracked C s) (commands : List (Field.Command α)) :
    Tracked C (s.after C commands) := by
  induction commands generalizing s with
  | nil => exact h
  | cons c commands ih => exact ih (h.step c)

lemma fresh_tracked {settings : Settings α} {paletteSize : ℤ}
    (h : Field.fresh settings paletteSize = .ok s) : Tracked C s := by
  unfold Field.fresh at h
  split at h
  · cases h
  · cases h
    exact .untouched rfl rfl rfl

/-! ## When a session is coherent -/

lemma coherent_of_untouched (hstage : s.stage = .idle) (hfunction : s.function = none) :
    Coherent C s := by
  constructor <;> simp [hstage, hfunction]

lemma coherent_of_settled {f : Slope α} {rejected : Option EquationError}
    (hcompiled : C.compileOrFlat (some s.equation) = .ok (f, rejected))
    (hfunction : s.function = some f) (hstage : s.stage = settledStage f) : Coherent C s := by
  obtain hc | ⟨e, hc, rfl⟩ := compileOrFlat_ok hcompiled
  · have hfallback := isFallback_of_compile hc
    rw [settledStage, hfallback] at hstage
    constructor <;> simp [hstage, hfunction, hc, hfallback]
  · have hfallback : (Slope.flat (some s.equation) e.message : Slope α).isFallback = true := rfl
    rw [settledStage, hfallback] at hstage
    constructor <;> simp [hstage, hfunction, hc]

/-- A session that can be reached is coherent when its equation has a function. -/
lemma Tracked.coherent_iff (h : Tracked C s) :
    Coherent C s ↔ ∃ r, C.compileOrFlat (some s.equation) = .ok r := by
  cases h with
  | untouched hstage hfunction hequation =>
    refine iff_of_true (coherent_of_untouched hstage hfunction) ?_
    rw [hequation, Calculus.compileOrFlat, compile_empty]
    exact ⟨_, rfl⟩
  | settled f rejected hcompiled hfunction hstage =>
    exact iff_of_true (coherent_of_settled hcompiled hfunction hstage) ⟨_, hcompiled⟩
  | cutShort e hcompiled hstage =>
    refine iff_of_false (fun hs => hs.settled hstage) ?_
    rintro ⟨r, hr⟩
    rw [hcompiled] at hr
    cases hr

lemma Tracked.compiling_of_not_coherent (h : Tracked C s) (hs : ¬ Coherent C s) :
    s.stage = .compiling := by
  cases h with
  | untouched hstage hfunction hequation =>
    exact absurd (coherent_of_untouched hstage hfunction) hs
  | settled f rejected hcompiled hfunction hstage =>
    exact absurd (coherent_of_settled hcompiled hfunction hstage) hs
  | cutShort e hcompiled hstage => exact hstage

lemma equation_of_step {c : Field.Command α} (hc : ∀ raw, c ≠ .setEquation raw) :
    (s.step C c).equation = s.equation := by
  cases c with
  | setEquation raw => exact absurd rfl (hc raw)
  | addCurve x₀ y₀ => exact addCurve_sameEquation.equation.trans (ensureCompiled_equation C s)
  | sample bounds density =>
    rw [Field.step, session_sample]
    exact ensureCompiled_equation C s
  | setSettings | removeCurve | clearCurves | curves | summaries => rfl

lemma equation_of_last (C : Calculus ε α) (s : Field α) (commands : List (Field.Command α))
    (raw : Option String) :
    (s.after C (commands ++ [.setEquation raw])).equation = raw.getD "" := by
  rw [Field.after, List.foldl_append, List.foldl_cons, List.foldl_nil, Field.step,
    setEquation_equation]

/-- Only an equation that cannot be taken over makes a session lose its coherence. -/
lemma Tracked.step_coherent_iff (h : Tracked C s) (hs : Coherent C s) (c : Field.Command α) :
    Coherent C (s.step C c) ↔
      ∀ raw, c = .setEquation raw → ∃ f, (s.setEquation C raw).result = .ok f := by
  rw [(h.step c).coherent_iff]
  by_cases hc : ∃ raw, c = .setEquation raw
  · obtain ⟨raw, rfl⟩ := hc
    rw [Field.step, setEquation_equation, ← setEquation_returns_iff C s]
    constructor
    · rintro hf raw' hraw
      cases hraw
      exact hf
    · intro hall
      exact hall raw rfl
  · rw [not_exists] at hc
    rw [equation_of_step hc]
    exact iff_of_true (h.coherent_iff.mp hs) fun raw hraw => absurd hraw (hc raw)

/-- After every run of commands the session is coherent exactly when the compilation of its equation
gives a function, the flat one of a rejected equation included. Otherwise its stage is that of a
compilation under way. An equation that is not taken over replaces the one before and leaves the
function, and no other command takes the coherence away. -/
theorem coherent_iff_compiles {settings : Settings α} {paletteSize : ℤ} {s₀ : Field α}
    (hfresh : Field.fresh settings paletteSize = .ok s₀) (commands : List (Field.Command α)) :
    (Coherent C (s₀.after C commands) ↔
      ∃ r, C.compileOrFlat (some (s₀.after C commands).equation) = .ok r) ∧
    (¬ Coherent C (s₀.after C commands) → (s₀.after C commands).stage = .compiling) ∧
    (∀ raw e, ((s₀.after C commands).setEquation C raw).result = .error e →
      ((s₀.after C commands).setEquation C raw).session =
        { s₀.after C commands with stage := .compiling, equation := raw.getD "" }) ∧
    (Coherent C (s₀.after C commands) → ∀ c : Field.Command α,
      (Coherent C ((s₀.after C commands).step C c) ↔
        ∀ raw, c = .setEquation raw →
          ∃ f, ((s₀.after C commands).setEquation C raw).result = .ok f)) := by
  have htracked : Tracked C (s₀.after C commands) := (fresh_tracked hfresh).after commands
  refine ⟨htracked.coherent_iff, htracked.compiling_of_not_coherent, ?_,
    fun hs c => htracked.step_coherent_iff hs c⟩
  intro raw e he
  cases hcompiled : C.compileOrFlat (some (raw.getD "")) with
  | error e' => exact (setEquation_of_error C _ raw hcompiled).2
  | ok p =>
    rw [(setEquation_of_ok C _ raw hcompiled).1] at he
    cases he

end Coherence

/-- The logarithm of zero takes the coherence of a session away; the next equation restores it. -/
theorem coherent_iff_compiles_formula :
    ∃ s : Field Float, Field.fresh Settings.standard 10 = .ok s ∧
      ¬ Coherent Formula.calculus (s.after Formula.calculus [.setEquation (some "log(0)")]) ∧
      Coherent Formula.calculus
        (s.after Formula.calculus [.setEquation (some "log(0)"), .setEquation (some "x")]) := by
  let s : Field Float := ⟨Settings.standard, 10, .idle, "", none, [], 1⟩
  have hfresh : Field.fresh Settings.standard 10 = .ok s := rfl
  have hlogZero : (s.after Formula.calculus [.setEquation (some "log(0)")]).equation = "log(0)" :=
    equation_of_last Formula.calculus s [] _
  have hx : (s.after Formula.calculus
      [.setEquation (some "log(0)"), .setEquation (some "x")]).equation = "x" :=
    equation_of_last Formula.calculus s [.setEquation (some "log(0)")] _
  refine ⟨s, hfresh, ?_, ?_⟩
  · rw [(coherent_iff_compiles hfresh _).1, hlogZero, compileOrFlat_logZero]
    simp
  · rw [(coherent_iff_compiles hfresh _).1, hx]
    exact compileOrFlat_x

/-- A session with the equation `x` that is given the logarithm of zero: the command fails, and the
session holds the new equation, the stage of a compilation under way and the function of `x`. -/
theorem logZero_breaks_coherence :
    ∃ s : Field Float, Field.fresh Settings.standard 10 = .ok s ∧
      let t := s.after Formula.calculus [.setEquation (some "x")]
      let e := t.setEquation Formula.calculus (some "log(0)")
      Coherent Formula.calculus t ∧ t.equation = "x" ∧
      e.result = .error .notComputable ∧ e.session.equation = "log(0)" ∧
      e.session.stage = .compiling ∧ e.session.function = t.function ∧
      ¬ Coherent Formula.calculus e.session := by
  let s : Field Float := ⟨Settings.standard, 10, .idle, "", none, [], 1⟩
  refine ⟨s, rfl, ?_⟩
  intro t e
  have htracked : Tracked Formula.calculus t := (Tracked.untouched rfl rfl rfl).after _
  have hequation : t.equation = "x" := equation_of_last Formula.calculus s [] _
  obtain ⟨hresult, hsession⟩ :=
    setEquation_of_error Formula.calculus t (some "log(0)") compileOrFlat_logZero
  have hstage : e.session.stage = .compiling := by rw [hsession]
  refine ⟨?_, hequation, hresult, ?_, hstage, ?_, fun hs => hs.settled hstage⟩
  · rw [htracked.coherent_iff, hequation]
    exact compileOrFlat_x
  · rw [hsession]
    rfl
  · rw [hsession]

end DirectionField.Proofs
