import DirectionField.Proofs.CompileFaults
import DirectionField.Proofs.FieldOperations

/-!
# Runs in settings that pass their checks

The checks admit a number of steps that is given as a fraction, and a width of step that is a whole
number of any size. A run takes neither: it cuts no fraction off, and it reads the width as a number
of the arithmetic. In all other settings that pass their checks every run in the rectangle returns.
-/

namespace DirectionField.Proofs

section Settings

variable {α : Type} [Numeral α]

/-- All fields of the settings are numbers. -/
structure HasNumbers (s : Settings α) : Prop extends HasBorders s where
  step : s.step.isNumber = true
  maxSteps : s.maxSteps.isNumber = true

/-- What stops a run in settings that hold numbers: a width that is out of range, or, where the width
can be read, a number of steps that is not given as a whole number. -/
inductive StoppedBy (s : Settings α) : Fault → Prop
  | width (n : ℤ) (hn : s.step.whole? = some n) (hlarge : (Numeral.ofInt? n : Option α) = none) :
      StoppedBy s .tooLarge
  | limit (w : α) (hw : s.step.toNumber = .ok w) (x : α) (hx : s.maxSteps = .real x) :
      StoppedBy s .mismatch

variable {s t : Settings α}

/-! ## What the checks give -/

lemma eq_of_checked (h : s.checked = .ok t) : t = s := by
  simp only [Settings.checked, bind_eq_ok] at h
  obtain ⟨_, -, _, -, _, -, _, -, h⟩ := h
  exact (Except.ok.inj h).symm

lemma maxSteps_of_checked (h : s.checked = .ok t) : ∃ n, s.maxSteps.toWhole = .ok n ∧ 1 ≤ n := by
  simp only [Settings.checked, Settings.checkMaxSteps, bind_eq_ok] at h
  obtain ⟨_, -, _, -, _, -, _, ⟨n, hn, hle⟩, -⟩ := h
  refine ⟨n, hn, ?_⟩
  by_contra hlt
  rw [if_pos (by omega)] at hle
  cases hle

lemma toNumber_error_iff {d : Datum α} (hd : d.isNumber = true) {fault : Fault} :
    d.toNumber = .error fault ↔
      fault = .tooLarge ∧ ∃ n, d.whole? = some n ∧ (Numeral.ofInt? n : Option α) = none := by
  have hwhole (n : ℤ) :
      ((Numeral.ofInt? n : Option α).map Except.ok).getD (.error .tooLarge) = .error fault ↔
        fault = .tooLarge ∧ (Numeral.ofInt? n : Option α) = none := by
    cases (Numeral.ofInt? n : Option α) <;> simp [eq_comm]
  cases d <;> simp [Datum.isNumber] at hd <;> simp [Datum.toNumber, Datum.whole?, hwhole]

/-! ## Runs -/

omit [Numeral α] in
lemma stepLimit_error_iff {d : Datum α} (hd : d.isNumber = true) {fault : Fault} :
    Run.stepLimit d = .error fault ↔ fault = .mismatch ∧ ∃ x, d = .real x := by
  rw [Run.stepLimit]
  cases d <;> simp [Datum.isNumber] at hd <;> simp [Datum.whole?, eq_comm]

variable {f : α → α → α} {h : Datum α} {seed : Point α}

lemma HasBorders.inside_not_error (hs : HasBorders s) (w : α) (limit : ℕ) (fault : Fault) :
    Run.inside f (regionOf s) seed w limit ≠ .error fault := by
  obtain ⟨r, hr⟩ :=
    insideFrom_ok (f := f) (h := w) hs.contains_total seed.x limit 1 seed [seed]
  intro herror
  cases hr.symm.trans herror

/-- A run from a seed of numbers reads the width, then the number of steps. -/
lemma box_of_seed {d : ℤ} (hd : d = 1 ∨ d = -1) :
    Run.box f (.real seed.x) (.real seed.y) h s (.whole d) .missing =
      h.toNumber >>= fun w => Run.stepLimit s.maxSteps >>= fun limit =>
        Run.inside f (regionOf s) seed (signedWidth d w) limit := by
  unfold Run.box
  rcases hd with rfl | rfl <;> simp [isEqual_whole] <;> rfl

variable (seed) in
lemma box_error_iff (hs : HasNumbers s) {d : ℤ} (hd : d = 1 ∨ d = -1) {fault : Fault} :
    Run.box f (.real seed.x) (.real seed.y) s.step s (.whole d) .missing = .error fault ↔
      StoppedBy s fault := by
  rw [box_of_seed hd]
  simp only [bind_eq_error, toNumber_error_iff hs.step, stepLimit_error_iff hs.maxSteps,
    hs.inside_not_error, and_false, exists_false, or_false]
  constructor
  · rintro (⟨rfl, n, hn, hlarge⟩ | ⟨w, hw, rfl, x, hx⟩)
    · exact .width n hn hlarge
    · exact .limit w hw x hx
  · rintro (⟨n, hn, hlarge⟩ | ⟨w, hw, x, hx⟩)
    · exact .inl ⟨rfl, n, hn, hlarge⟩
    · exact .inr ⟨w, hw, rfl, x, hx⟩

/-- A run that returns in checked settings has no more points than steps are allowed, and its
seed. -/
lemma length_of_box (hvalid : s.checked = .ok s) {d : ℤ} (hd : d = 1 ∨ d = -1) {r : Run α}
    (hr : Run.box f (.real seed.x) (.real seed.y) s.step s (.whole d) .missing = .ok r) :
    ∃ n, s.maxSteps.toWhole = .ok n ∧ (r.points.length : ℤ) ≤ n + 1 := by
  obtain ⟨p, w, limit, k, -, -, -, hlimit, hk, hpoints⟩ := box_extent hd hr
  obtain ⟨n, hn, hle⟩ := maxSteps_of_checked hvalid
  have hwithin : k ≤ n.toNat := by
    cases hm : s.maxSteps.whole? with
    | none => simp [boxLimit, Datum.isMissing, Run.stepLimit, hm] at hlimit
    | some m =>
      have hmn := Except.ok.inj ((toWhole_of_whole? hm).symm.trans hn)
      have hlimit' : limit = m.toNat := by
        simpa [boxLimit, Datum.isMissing, Run.stepLimit, hm, eq_comm] using hlimit
      rw [← hmn, ← hlimit']
      exact hk.within
  refine ⟨n, hn, ?_⟩
  rw [hpoints, length_orbitUpTo]
  omega

/-! ## Sessions -/

lemma addCurve_error_iff {ε : Type} (C : Calculus ε α) {field : Field α} {g : Slope α}
    (hg : field.function = some g) (hs : HasNumbers field.settings) {fault : Fault} :
    (field.addCurve C (.real seed.x) (.real seed.y)).result = .error fault ↔
      StoppedBy field.settings fault := by
  have hf := (ensureCompiled_of_some C field hg).1
  have hside {d : ℤ} (hd : d = 1 ∨ d = -1) (e : Fault) :
      field.sideRun g (.real seed.x) (.real seed.y) d = .error e ↔ StoppedBy field.settings e :=
    box_error_iff seed hs hd
  constructor
  · intro herror
    cases hforward : field.sideRun g (.real seed.x) (.real seed.y) 1 with
    | error e =>
      rw [addCurve_of_run_error hf hforward, Except.error.injEq] at herror
      exact herror ▸ (hside (.inl rfl) e).mp hforward
    | ok forward =>
      cases hbackward : field.sideRun g (.real seed.x) (.real seed.y) (-1) with
      | error e =>
        -- the two runs take the same settings and cannot differ in this
        cases hforward.symm.trans ((hside (.inl rfl) e).mpr ((hside (.inr rfl) e).mp hbackward))
      | ok backward =>
        rw [(addCurve_of_runs hf hforward hbackward rfl rfl).1] at herror
        cases herror
  · intro hstop
    exact addCurve_of_run_error hf ((hside (.inl rfl) fault).mpr hstop)

/-! ## Derived settings -/

/-- Settings that are given a width and a number of steps hold both in the form that runs take. -/
lemma withStep_runs (hs : HasBorders s) {h maxSteps : Datum α} (hh : h.isMissing = false)
    (hmax : maxSteps.isMissing = false) (ht : s.withStep h maxSteps = .ok t) :
    t.checked = .ok t ∧ HasNumbers t ∧ ∀ fault, ¬ StoppedBy t fault := by
  simp only [Settings.withStep, hh, hmax, Bool.false_eq_true, if_false, bind_eq_ok, map_eq_ok] at ht
  obtain ⟨_, ⟨w, -, rfl⟩, _, ⟨n, -, rfl⟩, ht⟩ := ht
  have heq := eq_of_checked ht
  subst heq
  refine ⟨ht, ⟨⟨hs.xMin, hs.xMax, hs.yMin, hs.yMax⟩, rfl, rfl⟩, ?_⟩
  rintro _ (⟨n, hn, -⟩ | ⟨-, -, x, hx⟩)
  · cases hn
  · cases hx

/-- In settings that hold numbers and pass their checks, a run from a seed of numbers is stopped
exactly by a width out of range or a number of steps that is not given as a whole number, and in all
others it returns, with no more points than steps are allowed and the seed. So it is for the curve
that a session adds when its equation is compiled. Settings that were given a width and a number of
steps by name are not among those that stop a run. -/
theorem checked_settings_run {ε : Type} (C : Calculus ε α) (hvalid : s.checked = .ok s)
    (hs : HasNumbers s) (f : α → α → α) (seed : Point α) {d : ℤ} (hd : d = 1 ∨ d = -1) :
    (∀ fault, Run.box f (.real seed.x) (.real seed.y) s.step s (.whole d) .missing = .error fault ↔
      StoppedBy s fault) ∧
    ((∀ fault, ¬ StoppedBy s fault) → ∃ r n,
      Run.box f (.real seed.x) (.real seed.y) s.step s (.whole d) .missing = .ok r ∧
      s.maxSteps.toWhole = .ok n ∧ (r.points.length : ℤ) ≤ n + 1) ∧
    (∀ (field : Field α) (g : Slope α), field.settings = s → field.function = some g →
      (∀ fault, (field.addCurve C (.real seed.x) (.real seed.y)).result = .error fault ↔
        StoppedBy s fault) ∧
      ((∀ fault, ¬ StoppedBy s fault) →
        ∃ c, (field.addCurve C (.real seed.x) (.real seed.y)).result = .ok c)) ∧
    (∀ h maxSteps t, h.isMissing = false → maxSteps.isMissing = false →
      s.withStep h maxSteps = .ok t →
      t.checked = .ok t ∧ HasNumbers t ∧ ∀ fault, ¬ StoppedBy t fault) := by
  refine ⟨fun fault => box_error_iff seed hs hd, ?_, ?_, ?_⟩
  · intro hruns
    cases hr : Run.box f (.real seed.x) (.real seed.y) s.step s (.whole d) .missing with
    | error e => exact absurd ((box_error_iff seed hs hd).mp hr) (hruns e)
    | ok r =>
      obtain ⟨n, hn, hle⟩ := length_of_box hvalid hd hr
      exact ⟨r, n, rfl, hn, hle⟩
  · rintro field g rfl hg
    refine ⟨fun fault => addCurve_error_iff C hg hs, fun hruns => ?_⟩
    cases hc : (field.addCurve C (.real seed.x) (.real seed.y)).result with
    | error e => exact absurd ((addCurve_error_iff C hg hs).mp hc) (hruns e)
    | ok c => exact ⟨c, rfl⟩
  · intro h maxSteps t hh hmax ht
    exact withStep_runs hs.toHasBorders hh hmax ht

end Settings

/-! ## Settings in doubles -/

lemma checked_of_isOk {α : Type} [Numeral α] {s : Settings α} (h : s.checked.isOk = true) :
    s.checked = .ok s := by
  obtain ⟨t, ht⟩ := ok_of_isOk h
  rw [ht, eq_of_checked ht]

/-- The settings that a session starts with, with a number of steps that is given as a fraction. -/
def fractionSettings : Settings Float := { Settings.standard with maxSteps := .real 2.5 }

/-- The standard settings stop no run, and so neither a run to the left nor a curve. -/
theorem checked_settings_run_standard :
    (Settings.standard : Settings Float).checked = .ok Settings.standard ∧
    HasNumbers (Settings.standard : Settings Float) ∧
    ∃ r n, Run.box (fun x _ => x) (.real 0) (.real 1) Settings.standard.step
        (Settings.standard : Settings Float) (.whole (-1)) .missing = .ok r ∧
      (Settings.standard : Settings Float).maxSteps.toWhole = .ok n ∧
      (r.points.length : ℤ) ≤ n + 1 := by
  have hvalid : (Settings.standard : Settings Float).checked = .ok Settings.standard :=
    checked_of_isOk (by decide +kernel)
  have hs : HasNumbers (Settings.standard : Settings Float) := ⟨⟨rfl, rfl, rfl, rfl⟩, rfl, rfl⟩
  have hruns (fault : Fault) : ¬ StoppedBy (Settings.standard : Settings Float) fault := by
    rintro (⟨n, hn, -⟩ | ⟨-, -, x, hx⟩)
    · cases hn
    · cases hx
  exact ⟨hvalid, hs, (checked_settings_run Formula.calculus hvalid hs _ ⟨0, 1⟩ (.inr rfl)).2.1 hruns⟩

/-- Two and a half steps pass the checks as two, and stop the run of `x` from the origin. -/
theorem fraction_of_steps_stops :
    fractionSettings.checked = .ok fractionSettings ∧ HasNumbers fractionSettings ∧
    fractionSettings.maxSteps.toWhole = .ok 2 ∧
    Run.box (fun x _ => x) (.real 0) (.real 0) fractionSettings.step fractionSettings (.whole 1)
      .missing = .error .mismatch := by
  have hs : HasNumbers fractionSettings := ⟨⟨rfl, rfl, rfl, rfl⟩, rfl, rfl⟩
  refine ⟨checked_of_isOk (by decide +kernel), hs, ?_, ?_⟩
  · decide +kernel
  · exact (box_error_iff ⟨0, 0⟩ hs (.inl rfl)).mpr (.limit _ rfl _ rfl)

end DirectionField.Proofs
