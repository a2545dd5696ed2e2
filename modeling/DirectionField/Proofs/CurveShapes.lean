import DirectionField.Proofs.FieldCoherence
import DirectionField.Proofs.Rational

/-!
# The shape of a curve

Where a curve goes is decided by its seed and by the slopes and the settings of its session. All
else that the session holds or has done shows only in the number and the colour of the curve.
-/

namespace DirectionField.Proofs

/-- A curve but for its number and its colour. -/
structure Shape (α : Type) where
  seed : Point α
  points : List (Point α)
  seedIndex : ℕ

def shape {α : Type} (c : Curve α) : Shape α := ⟨c.seed, c.points, c.seedIndex⟩

section Shapes

variable {ε α : Type} [Numeral α]

/-- The shape of the curve that slopes give through a seed, if both of its sides return. -/
def shapeOf (v : α → α → α) (settings : Settings α) (x₀ y₀ : Datum α) :
    Except Fault (Shape α) := do
  let forward ← Run.box v x₀ y₀ settings.step settings (.whole 1) .missing
  let backward ← Run.box v x₀ y₀ settings.step settings (.whole (-1)) .missing
  let x ← x₀.toNumber
  let y ← y₀.toNumber
  return ⟨⟨x, y⟩, Curve.leftOf backward ++ forward.points, (Curve.leftOf backward).length⟩

/-- The slopes that the next curve of a session follows. -/
def slopes (C : Calculus ε α) (s : Field α) : Except Fault (α → α → α) :=
  (s.ensureCompiled C).result.map Slope.value

variable {C : Calculus ε α} {s t : Field α} {f : Slope α} {x₀ y₀ : Datum α}

/-! ## One curve -/

lemma shape_addCurveOf :
    (s.addCurveOf f x₀ y₀).result.map shape = shapeOf f.value s.settings x₀ y₀ := by
  unfold Field.addCurveOf Field.sideRun shapeOf
  cases Run.box f.value x₀ y₀ s.settings.step s.settings (.whole 1) .missing with
  | error e => rfl
  | ok forward =>
    cases Run.box f.value x₀ y₀ s.settings.step s.settings (.whole (-1)) .missing with
    | error e => rfl
    | ok backward => cases x₀.toNumber <;> cases y₀.toNumber <;> rfl

lemma shape_addCurve :
    (s.addCurve C x₀ y₀).result.map shape =
      slopes C s >>= fun v => shapeOf v s.settings x₀ y₀ := by
  unfold Field.addCurve slopes
  cases hf : (s.ensureCompiled C).result with
  | error e =>
    rw [(bind_of_error hf _).1]
    rfl
  | ok f =>
    rw [(bind_of_ok hf _).1, shape_addCurveOf, (ensureCompiled_sameStore C s).settings]
    rfl

lemma settings_addCurve : (s.addCurve C x₀ y₀).session.settings = s.settings := by
  have hsame := ensureCompiled_sameStore C s
  cases hr : (s.addCurve C x₀ y₀).result with
  | error e => rw [session_of_addCurve_error hr, hsame.settings]
  | ok c =>
    obtain ⟨f, forward, backward, seed, hf, hforward, hbackward, hx, hy⟩ := runs_of_addCurve hr
    rw [(addCurve_of_runs hf hforward hbackward hx hy).2, ← hsame.settings]
    rfl

lemma curves_addCurve :
    (s.addCurve C x₀ y₀).session.curves =
      s.curves ++ (s.addCurve C x₀ y₀).result.toOption.toList := by
  have hsame := ensureCompiled_sameStore C s
  cases hr : (s.addCurve C x₀ y₀).result with
  | error e =>
    rw [session_of_addCurve_error hr, hsame.curves]
    exact (List.append_nil _).symm
  | ok c =>
    obtain ⟨f, forward, backward, seed, hf, hforward, hbackward, hx, hy⟩ := runs_of_addCurve hr
    obtain ⟨hresult, hsession⟩ := addCurve_of_runs hf hforward hbackward hx hy
    rw [hr, Except.ok.injEq] at hresult
    rw [hsession, hresult, ← hsame.curves]
    rfl

/-! ## The slopes of a session -/

lemma slopes_of_some (hf : s.function = some f) : slopes C s = .ok f.value := by
  rw [slopes, (ensureCompiled_of_some C s hf).1]
  rfl

lemma slopes_of_none (hf : s.function = none) :
    slopes C s = (C.compileOrFlat (some s.equation)).map fun r => r.1.value := by
  rw [slopes, ensureCompiled_of_none C s hf]
  cases h : C.compileOrFlat (some s.equation) with
  | error e => rw [(setEquation_of_error C s (some s.equation) h).1]; rfl
  | ok r => rw [(setEquation_of_ok C s (some s.equation) h).1]; rfl

lemma slopes_congr (hst : SameEquation s t) : slopes C t = slopes C s := by
  cases hf : s.function with
  | some f => rw [slopes_of_some hf, slopes_of_some (hst.function.trans hf)]
  | none => rw [slopes_of_none hf, slopes_of_none (hst.function.trans hf), hst.equation]

/-- The first curve has the equation compiled, the others find it compiled. -/
lemma slopes_ensureCompiled : slopes C (s.ensureCompiled C).session = slopes C s := by
  cases hf : s.function with
  | some f => rw [(ensureCompiled_of_some C s hf).2]
  | none =>
    rw [slopes_of_none hf, ensureCompiled_of_none C s hf]
    cases h : C.compileOrFlat (some s.equation) with
    | error e =>
      rw [(setEquation_of_error C s (some s.equation) h).2]
      have hnone : ({ s with stage := .compiling, equation := s.equation } : Field α).function =
          none := hf
      rw [Option.getD_some, slopes_of_none hnone, h]
    | ok r =>
      rw [(setEquation_of_ok C s (some s.equation) h).2]
      exact slopes_of_some rfl

lemma slopes_addCurve : slopes C (s.addCurve C x₀ y₀).session = slopes C s :=
  (slopes_congr addCurve_sameEquation).trans slopes_ensureCompiled

/-! ## Curves one after the other -/

/-- The commands that change neither equation nor settings and take no curve away. -/
inductive Keeps : Field.Command α → Prop
  | addCurve (x₀ y₀ : Datum α) : Keeps (.addCurve x₀ y₀)
  | curves : Keeps .curves
  | summaries : Keeps .summaries
  | sample (bounds density : Datum α) : Keeps (.sample bounds density)

def seed? : Field.Command α → Option (Datum α × Datum α)
  | .addCurve x₀ y₀ => some (x₀, y₀)
  | _ => none

/-- The shape of the curve that a session adds through a seed, if it adds one. -/
def shapeAt? (C : Calculus ε α) (s : Field α) (seed : Datum α × Datum α) : Option (Shape α) :=
  (slopes C s >>= fun v => shapeOf v s.settings seed.1 seed.2).toOption

structure Continues (C : Calculus ε α) (s t : Field α) (added : List (Shape α)) : Prop where
  slopes : slopes C t = slopes C s
  settings : t.settings = s.settings
  curves : t.curves.map shape = s.curves.map shape ++ added

lemma Keeps.step {c : Field.Command α} (hc : Keeps c) :
    Continues C s (s.step C c) ((seed? c).bind (shapeAt? C s)).toList := by
  cases hc with
  | addCurve x₀ y₀ =>
    refine ⟨slopes_addCurve, settings_addCurve, ?_⟩
    have hshape : shapeAt? C s (x₀, y₀) =
        ((s.addCurve C x₀ y₀).result.map shape).toOption := by
      rw [shape_addCurve]
      rfl
    rw [Field.step, curves_addCurve, List.map_append, seed?, Option.bind_some, hshape]
    cases (s.addCurve C x₀ y₀).result <;> rfl
  | curves => exact ⟨rfl, rfl, (List.append_nil _).symm⟩
  | summaries => exact ⟨rfl, rfl, (List.append_nil _).symm⟩
  | sample bounds density =>
    have hsame := ensureCompiled_sameStore C s
    rw [Field.step, session_sample]
    refine ⟨slopes_ensureCompiled, hsame.settings, ?_⟩
    rw [hsame.curves]
    exact (List.append_nil _).symm

lemma curves_after {cs : List (Field.Command α)} (hcs : ∀ c ∈ cs, Keeps c) :
    Continues C s (s.after C cs) ((cs.filterMap seed?).filterMap (shapeAt? C s)) := by
  -- each command leaves the slopes and the settings that the next curve is made from
  induction cs generalizing s with
  | nil => exact ⟨rfl, rfl, (List.append_nil _).symm⟩
  | cons c cs ih =>
    obtain ⟨hc, hrest⟩ := List.forall_mem_cons.mp hcs
    have hstep : Continues C s (s.step C c) _ := hc.step
    have hafter : Continues C (s.step C c) ((s.step C c).after C cs) _ := ih hrest
    have hat : shapeAt? C (s.step C c) = shapeAt? C s := by
      funext seed
      rw [shapeAt?, shapeAt?, hstep.slopes, hstep.settings]
    refine ⟨hafter.slopes.trans hstep.slopes, hafter.settings.trans hstep.settings, ?_⟩
    have hcurves := hafter.curves
    rw [hat, hstep.curves, List.append_assoc] at hcurves
    rw [Field.after, List.foldl_cons, ← Field.after, hcurves]
    congr 1
    cases hseed : seed? c with
    | none => rw [List.filterMap_cons_none hseed]; rfl
    | some p =>
      rw [List.filterMap_cons_some hseed, List.filterMap_cons, Option.bind_some]
      cases shapeAt? C s p <;> rfl

lemma curves_perm {cs ds : List (Field.Command α)} (hcs : ∀ c ∈ cs, Keeps c)
    (hds : ∀ c ∈ ds, Keeps c) (hseeds : (cs.filterMap seed?).Perm (ds.filterMap seed?)) :
    ((s.after C cs).curves.map shape).Perm ((s.after C ds).curves.map shape) := by
  rw [(curves_after hcs).curves, (curves_after hds).curves]
  exact (hseeds.filterMap _).append_left _

/-! ## Two histories -/

/-- The session is what some commands make of a fresh one. -/
def Reached (C : Calculus ε α) (s : Field α) : Prop :=
  ∃ settings paletteSize s₀ commands, Field.fresh settings paletteSize = .ok s₀ ∧
    s = s₀.after C commands

lemma Reached.tracked (h : Reached C s) : Tracked C s := by
  obtain ⟨settings, paletteSize, s₀, commands, hfresh, rfl⟩ := h
  exact (fresh_tracked hfresh).after commands

/-- A session without a function that can make a curve was given no equation. -/
lemma Tracked.equation_of_slopes (h : Tracked C s) (hnone : s.function = none) {v : α → α → α}
    (hv : slopes C s = .ok v) : s.equation = "" := by
  rw [slopes_of_none hnone] at hv
  cases h with
  | untouched hstage hfunction hequation => exact hequation
  | settled f rejected hcompiled hfunction hstage => cases hnone.symm.trans hfunction
  | cutShort e hcompiled hstage =>
    rw [hcompiled] at hv
    cases hv

lemma slopes_of_sameValues (hfunction : s.function.map Slope.value = t.function.map Slope.value)
    (h : s.function ≠ none ∨ s.equation = t.equation) : slopes C s = slopes C t := by
  cases hs : s.function with
  | some f =>
    rw [hs, Option.map_some, eq_comm, Option.map_eq_some_iff] at hfunction
    obtain ⟨g, hg, hvalue⟩ := hfunction
    rw [slopes_of_some hs, slopes_of_some hg, hvalue]
  | none =>
    rw [hs, Option.map_none, eq_comm, Option.map_eq_none_iff] at hfunction
    rw [slopes_of_none hs, slopes_of_none hfunction, h.resolve_left fun hne => hne hs]

lemma slopes_of_addCurve {c : Curve α} (hc : (s.addCurve C x₀ y₀).result = .ok c) :
    ∃ v, slopes C s = .ok v ∧ shapeOf v s.settings x₀ y₀ = .ok (shape c) := by
  have hshape : (s.addCurve C x₀ y₀).result.map shape = .ok (shape c) := by
    rw [hc]
    rfl
  rw [shape_addCurve] at hshape
  exact bind_eq_ok.mp hshape

/-- Two sessions that commands have led to, each in its own way, with the same slopes and settings
give curves of one shape through a seed. They also refuse the same seeds with the same faults,
unless neither has a function and their equations differ. Curves that are added one after the other
have the same shapes in any order of their seeds. An equation or settings that are taken over leave
all curves as they are. -/
theorem curve_shape_forgets_history (hs : Reached C s) (ht : Reached C t)
    (hfunction : s.function.map Slope.value = t.function.map Slope.value)
    (hsettings : s.settings = t.settings) :
    (∀ x₀ y₀ c d, (s.addCurve C x₀ y₀).result = .ok c → (t.addCurve C x₀ y₀).result = .ok d →
      shape c = shape d) ∧
    ((s.function ≠ none ∨ s.equation = t.equation) → ∀ x₀ y₀,
      (s.addCurve C x₀ y₀).result.map shape = (t.addCurve C x₀ y₀).result.map shape) ∧
    (∀ cs ds : List (Field.Command α), (∀ c ∈ cs, Keeps c) → (∀ c ∈ ds, Keeps c) →
      (cs.filterMap seed?).Perm (ds.filterMap seed?) →
      ((s.after C cs).curves.map shape).Perm ((s.after C ds).curves.map shape)) ∧
    (∀ raw, (s.setEquation C raw).session.curves = s.curves) ∧
    (∀ settings, (s.setSettings settings).curves = s.curves) := by
  refine ⟨?_, ?_, ?_, fun raw => (setEquation_sameStore C s raw).curves, fun _ => rfl⟩
  · intro x₀ y₀ c d hc hd
    obtain ⟨v, hv, hcv⟩ := slopes_of_addCurve hc
    obtain ⟨w, hw, hdw⟩ := slopes_of_addCurve hd
    have hsame : s.function ≠ none ∨ s.equation = t.equation := by
      by_cases hnone : s.function = none
      · have hnone' : t.function = none := by
          rw [hnone, Option.map_none, eq_comm, Option.map_eq_none_iff] at hfunction
          exact hfunction
        right
        rw [hs.tracked.equation_of_slopes hnone hv, ht.tracked.equation_of_slopes hnone' hw]
      · exact .inl hnone
    have hslopes := slopes_of_sameValues (C := C) hfunction hsame
    rw [hv, hw, Except.ok.injEq] at hslopes
    rw [← hslopes, ← hsettings, hcv, Except.ok.injEq] at hdw
    exact hdw
  · intro hsame x₀ y₀
    rw [shape_addCurve, shape_addCurve, slopes_of_sameValues hfunction hsame, hsettings]
  · intro cs ds hcs hds hseeds
    exact curves_perm hcs hds hseeds

end Shapes

/-- The field of decay, at once in a session of ten colours and after a rejected equation and other
settings in one of three: both give the same curve through `(0, 1)`. -/
theorem curve_shape_forgets_history_decay :
    ∃ s t, Reached decayCalculus s ∧ Reached decayCalculus t ∧
      s.function.map Slope.value = t.function.map Slope.value ∧ s.settings = t.settings ∧
      s.paletteSize ≠ t.paletteSize ∧
      ∃ c d, (s.addCurve decayCalculus (.whole 0) (.whole 1)).result = .ok c ∧
        (t.addCurve decayCalculus (.whole 0) (.whole 1)).result = .ok d ∧ shape c = shape d := by
  let fresh (settings : Settings ℚ) (n : ℕ) : Field ℚ := ⟨settings, n, .idle, "", none, [], 1⟩
  let u := ((fresh .standard 3).setEquation decayCalculus (some "y/x +")).session.setSettings
    decaySettings
  let s := ((fresh decaySettings 10).setEquation decayCalculus (some "dy/dx = -y")).session
  let t := (u.setEquation decayCalculus (some "dy/dx = -y")).session
  have hs : Reached decayCalculus s :=
    ⟨decaySettings, 10, _, [.setEquation (some "dy/dx = -y")], rfl, rfl⟩
  have ht : Reached decayCalculus t :=
    ⟨.standard, 3, _, [.setEquation (some "y/x +"), .setSettings decaySettings,
      .setEquation (some "dy/dx = -y")], rfl, rfl⟩
  have hsf : s.function = some decaySlope := function_of_setEquation _ _ compile_decay
  have htf : t.function = some decaySlope := function_of_setEquation _ _ compile_decay
  have hss := setEquation_sameStore decayCalculus (fresh decaySettings 10) (some "dy/dx = -y")
  have hts := setEquation_sameStore decayCalculus u (some "dy/dx = -y")
  have hus := setEquation_sameStore decayCalculus (fresh .standard 3) (some "y/x +")
  have hfunction : s.function.map Slope.value = t.function.map Slope.value := by rw [hsf, htf]
  have hsettings : s.settings = t.settings := hss.settings.trans hts.settings.symm
  have hcurve (v : Field ℚ) (hv : v.function = some decaySlope) (hset : v.settings = decaySettings) :
      ∃ c, (v.addCurve decayCalculus (.whole 0) (.whole 1)).result = .ok c := by
    have hborders : HasBorders v.settings := hset ▸ decayExact_describes.hasBorders
    have hstep : v.settings.step.toNumber = .ok (1 / 2) := by rw [hset]; rfl
    have hlimit : Run.stepLimit v.settings.maxSteps = .ok 3 := by rw [hset]; rfl
    have hx : (Datum.whole 0 : Datum ℚ).toNumber = .ok (⟨0, 1⟩ : Point ℚ).x := rfl
    have hy : (Datum.whole 1 : Datum ℚ).toNumber = .ok (⟨0, 1⟩ : Point ℚ).y := rfl
    exact addCurve_returns (ensureCompiled_of_some _ v hv).1 hborders hx hy hstep hlimit
  obtain ⟨c, hc⟩ := hcurve s hsf hss.settings
  obtain ⟨d, hd⟩ := hcurve t htf hts.settings
  have hpalette : s.paletteSize ≠ t.paletteSize := by
    rw [hss.paletteSize, hts.paletteSize]
    change 10 ≠ ((fresh .standard 3).setEquation decayCalculus (some "y/x +")).session.paletteSize
    rw [hus.paletteSize]
    decide
  exact ⟨s, t, hs, ht, hfunction, hsettings, hpalette, c, d, hc, hd,
    (curve_shape_forgets_history hs ht hfunction hsettings).1 _ _ _ _ hc hd⟩

end DirectionField.Proofs
