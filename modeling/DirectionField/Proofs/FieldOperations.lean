import DirectionField.Field
import DirectionField.Proofs.RunExtent

/-!
# What the operations of a field session do

One description for each operation that can be cut short: what it leaves in the session and what it
gives, on every way through it. Later statements about sessions are made from these.
-/

namespace DirectionField.Proofs

lemma bind_of_ok {σ α β γ : Type} {e : Effect σ α β} {b : β} (h : e.result = .ok b)
    (next : σ → β → Effect σ α γ) :
    (e.bind next).result = (next e.session b).result ∧
      (e.bind next).session = (next e.session b).session := by
  unfold Effect.bind
  rw [h]
  exact ⟨rfl, rfl⟩

lemma bind_of_error {σ α β γ : Type} {e : Effect σ α β} {f : Fault} (h : e.result = .error f)
    (next : σ → β → Effect σ α γ) :
    (e.bind next).result = .error f ∧ (e.bind next).session = e.session := by
  unfold Effect.bind
  rw [h]
  exact ⟨rfl, rfl⟩

section Splice

variable {α : Type} (id colorIndex : Int) (seed : Point α) (backward forward : Run α)

/-- The points of a curve from its seed on are those of the forward run. -/
lemma drop_splice :
    (Curve.splice id colorIndex seed backward forward).points.drop
      (Curve.splice id colorIndex seed backward forward).seedIndex = forward.points :=
  List.drop_left

/-- The points of a curve from its seed back are those of the backward run. -/
lemma reverse_take_splice (hbackward : backward.points.take 1 = [seed])
    (hforward : forward.points.take 1 = [seed]) :
    ((Curve.splice id colorIndex seed backward forward).points.take
      ((Curve.splice id colorIndex seed backward forward).seedIndex + 1)).reverse =
        backward.points := by
  have hcut : (Curve.splice id colorIndex seed backward forward).points.take
      ((Curve.splice id colorIndex seed backward forward).seedIndex + 1) =
        Curve.leftOf backward ++ [seed] := by
    rw [← hforward]
    exact List.take_length_add_append 1
  rw [hcut, List.reverse_append, List.reverse_singleton, ← hbackward, Curve.leftOf,
    List.reverse_reverse, List.take_append_drop]

end Splice

section Operations

variable {ε α : Type} [Numeral α]

/-- Two sessions with the same settings and the same store of curves. -/
structure SameStore (s t : Field α) : Prop where
  settings : t.settings = s.settings
  paletteSize : t.paletteSize = s.paletteSize
  curves : t.curves = s.curves
  nextId : t.nextId = s.nextId

/-- Two sessions with the same equation, as far as it is taken over. -/
structure SameEquation (s t : Field α) : Prop where
  stage : t.stage = s.stage
  equation : t.equation = s.equation
  function : t.function = s.function

/-- The stage of a session whose function stands for its equation. -/
def settledStage (f : Slope α) : Stage := if f.isFallback then .compileError else .ready

variable (C : Calculus ε α) (s : Field α)

/-! ## The equation -/

lemma setEquation_of_ok (raw : Option String) {f : Slope α} {rejected : Option EquationError}
    (h : C.compileOrFlat (some (raw.getD "")) = .ok (f, rejected)) :
    (s.setEquation C raw).result = .ok f ∧
      (s.setEquation C raw).session =
        { s with stage := settledStage f, equation := raw.getD "", function := some f } := by
  unfold Field.setEquation
  dsimp only
  rw [h]
  exact ⟨rfl, rfl⟩

lemma setEquation_of_error (raw : Option String) {e : Fault}
    (h : C.compileOrFlat (some (raw.getD "")) = .error e) :
    (s.setEquation C raw).result = .error e ∧
      (s.setEquation C raw).session =
        { s with stage := .compiling, equation := raw.getD "" } := by
  unfold Field.setEquation
  dsimp only
  rw [h]
  exact ⟨rfl, rfl⟩

lemma function_of_setEquation {text : String} {f : Slope α}
    (h : C.compile (some text) = .ok f) :
    (s.setEquation C (some text)).session.function = some f := by
  have hflat : C.compileOrFlat (some ((some text).getD "")) = .ok (f, none) := by
    rw [Option.getD_some, Calculus.compileOrFlat, h]
  rw [(setEquation_of_ok C s (some text) hflat).2]

lemma setEquation_equation (raw : Option String) :
    (s.setEquation C raw).session.equation = raw.getD "" := by
  cases h : C.compileOrFlat (some (raw.getD "")) with
  | error e => rw [(setEquation_of_error C s raw h).2]
  | ok p => rw [(setEquation_of_ok C s raw h).2]

lemma setEquation_returns_iff (raw : Option String) :
    (∃ f, (s.setEquation C raw).result = .ok f) ↔
      ∃ r, C.compileOrFlat (some (raw.getD "")) = .ok r := by
  cases h : C.compileOrFlat (some (raw.getD "")) with
  | error e =>
    rw [(setEquation_of_error C s raw h).1]
    simp
  | ok p =>
    rw [(setEquation_of_ok C s raw h).1]
    simp

lemma setEquation_sameStore (raw : Option String) :
    SameStore s (s.setEquation C raw).session := by
  cases h : C.compileOrFlat (some (raw.getD "")) with
  | error e =>
    rw [(setEquation_of_error C s raw h).2]
    exact ⟨rfl, rfl, rfl, rfl⟩
  | ok p =>
    rw [(setEquation_of_ok C s raw h).2]
    exact ⟨rfl, rfl, rfl, rfl⟩

lemma ensureCompiled_of_some {f : Slope α} (h : s.function = some f) :
    (s.ensureCompiled C).result = .ok f ∧ (s.ensureCompiled C).session = s := by
  unfold Field.ensureCompiled
  rw [h]
  exact ⟨rfl, rfl⟩

lemma ensureCompiled_of_none (h : s.function = none) :
    s.ensureCompiled C = s.setEquation C (some s.equation) := by
  unfold Field.ensureCompiled
  rw [h]

lemma ensureCompiled_equation : (s.ensureCompiled C).session.equation = s.equation := by
  cases h : s.function with
  | none =>
    rw [ensureCompiled_of_none C s h, setEquation_equation]
    rfl
  | some f => rw [(ensureCompiled_of_some C s h).2]

lemma ensureCompiled_sameStore : SameStore s (s.ensureCompiled C).session := by
  cases h : s.function with
  | none =>
    rw [ensureCompiled_of_none C s h]
    exact setEquation_sameStore C s _
  | some f =>
    rw [(ensureCompiled_of_some C s h).2]
    exact ⟨rfl, rfl, rfl, rfl⟩

lemma sideRun_ensureCompiled (f : Slope α) (x₀ y₀ : Datum α) (d : Int) :
    (s.ensureCompiled C).session.sideRun f x₀ y₀ d = s.sideRun f x₀ y₀ d := by
  unfold Field.sideRun
  rw [(ensureCompiled_sameStore C s).settings]

/-! ## Curves and samples -/

variable {C s} {x₀ y₀ : Datum α}

/-- A curve is added when the equation is compiled, both runs return and the seed is a pair of
numbers. -/
lemma addCurve_of_runs {f : Slope α} {forward backward : Run α} {seed : Point α}
    (hf : (s.ensureCompiled C).result = .ok f)
    (hforward : s.sideRun f x₀ y₀ 1 = .ok forward)
    (hbackward : s.sideRun f x₀ y₀ (-1) = .ok backward)
    (hx : x₀.toNumber = .ok seed.x) (hy : y₀.toNumber = .ok seed.y) :
    (s.addCurve C x₀ y₀).result =
        .ok ((s.ensureCompiled C).session.store seed backward forward).2 ∧
      (s.addCurve C x₀ y₀).session =
        ((s.ensureCompiled C).session.store seed backward forward).1 := by
  rw [← sideRun_ensureCompiled C] at hforward hbackward
  unfold Field.addCurve
  rw [(bind_of_ok hf _).1, (bind_of_ok hf _).2]
  simp only [Field.addCurveOf, hforward, hbackward, hx, hy, and_self]

lemma addCurve_of_run_error {f : Slope α} {e : Fault} (hf : (s.ensureCompiled C).result = .ok f)
    (hrun : s.sideRun f x₀ y₀ 1 = .error e) : (s.addCurve C x₀ y₀).result = .error e := by
  rw [← sideRun_ensureCompiled C] at hrun
  unfold Field.addCurve
  rw [(bind_of_ok hf _).1]
  simp only [Field.addCurveOf, hrun]

lemma addCurve_returns {f : Slope α} {seed : Point α} {w : α} {limit : Nat}
    (hf : (s.ensureCompiled C).result = .ok f) (hs : HasBorders s.settings)
    (hx : x₀.toNumber = .ok seed.x) (hy : y₀.toNumber = .ok seed.y)
    (hw : s.settings.step.toNumber = .ok w)
    (hlimit : Run.stepLimit s.settings.maxSteps = .ok limit) :
    ∃ c, (s.addCurve C x₀ y₀).result = .ok c := by
  have hbox : boxLimit s.settings .missing = .ok limit := hlimit
  obtain ⟨forward, hforward⟩ := box_returns (f := f.value) hs (.inl rfl) hx hy hw hbox
  obtain ⟨backward, hbackward⟩ := box_returns (f := f.value) hs (.inr rfl) hx hy hw hbox
  exact ⟨_, (addCurve_of_runs hf hforward hbackward hx hy).1⟩

lemma runs_of_addCurveOf {f : Slope α} {c : Curve α} (h : (s.addCurveOf f x₀ y₀).result = .ok c) :
    ∃ (forward backward : Run α) (seed : Point α), s.sideRun f x₀ y₀ 1 = .ok forward ∧
      s.sideRun f x₀ y₀ (-1) = .ok backward ∧
      x₀.toNumber = .ok seed.x ∧ y₀.toNumber = .ok seed.y := by
  unfold Field.addCurveOf at h
  split at h
  · cases h
  · rename_i forward hforward
    split at h
    · cases h
    · rename_i backward hbackward
      dsimp only at h
      split at h
      · rename_i x y hx hy
        exact ⟨forward, backward, ⟨x, y⟩, hforward, hbackward, hx, hy⟩
      · cases h
      · cases h

lemma session_of_addCurveOf_error {f : Slope α} {e : Fault}
    (h : (s.addCurveOf f x₀ y₀).result = .error e) : (s.addCurveOf f x₀ y₀).session = s := by
  unfold Field.addCurveOf at h ⊢
  split at h
  · rfl
  · split at h
    · rfl
    · dsimp only at h ⊢
      split at h
      · cases h
      · rfl
      · rfl

/-- A curve that is added is that of two runs that returned. -/
lemma runs_of_addCurve {c : Curve α} (h : (s.addCurve C x₀ y₀).result = .ok c) :
    ∃ (f : Slope α) (forward backward : Run α) (seed : Point α),
      (s.ensureCompiled C).result = .ok f ∧ s.sideRun f x₀ y₀ 1 = .ok forward ∧
      s.sideRun f x₀ y₀ (-1) = .ok backward ∧
      x₀.toNumber = .ok seed.x ∧ y₀.toNumber = .ok seed.y := by
  unfold Field.addCurve at h
  cases hf : (s.ensureCompiled C).result with
  | error e =>
    rw [(bind_of_error hf _).1] at h
    cases h
  | ok f =>
    rw [(bind_of_ok hf _).1] at h
    obtain ⟨forward, backward, seed, hforward, hbackward, hx, hy⟩ := runs_of_addCurveOf h
    rw [sideRun_ensureCompiled] at hforward hbackward
    exact ⟨f, forward, backward, seed, rfl, hforward, hbackward, hx, hy⟩

lemma session_of_addCurve_error {e : Fault} (h : (s.addCurve C x₀ y₀).result = .error e) :
    (s.addCurve C x₀ y₀).session = (s.ensureCompiled C).session := by
  unfold Field.addCurve at h ⊢
  cases hf : (s.ensureCompiled C).result with
  | error e => exact (bind_of_error hf _).2
  | ok f =>
    rw [(bind_of_ok hf _).1] at h
    rw [(bind_of_ok hf _).2]
    exact session_of_addCurveOf_error h

lemma addCurve_sameEquation :
    SameEquation (s.ensureCompiled C).session (s.addCurve C x₀ y₀).session := by
  cases hr : (s.addCurve C x₀ y₀).result with
  | error e =>
    rw [session_of_addCurve_error hr]
    exact ⟨rfl, rfl, rfl⟩
  | ok c =>
    obtain ⟨f, forward, backward, seed, hf, hforward, hbackward, hx, hy⟩ := runs_of_addCurve hr
    rw [(addCurve_of_runs hf hforward hbackward hx hy).2]
    exact ⟨rfl, rfl, rfl⟩

lemma session_sample (bounds density : Datum α) :
    (s.sample C bounds density).session = (s.ensureCompiled C).session := by
  unfold Field.sample Effect.bind
  cases (s.ensureCompiled C).result <;> rfl

/-- A session samples the raw slope, over its own rectangle when none is given. -/
lemma result_sample {f : Slope α} (hf : (s.ensureCompiled C).result = .ok f)
    (bounds density : Datum α) :
    (s.sample C bounds density).result =
      Grid.sample f.evaluate (if bounds.isMissing then .list s.settings.bounds else bounds) density
        none := by
  rw [Field.sample, (bind_of_ok hf _).1, (ensureCompiled_sameStore C s).settings]

end Operations

end DirectionField.Proofs
