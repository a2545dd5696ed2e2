import DirectionField.Proofs.CompileFaults
import DirectionField.Proofs.CurveSplice
import DirectionField.Proofs.Samples

/-!
# Sessions in a flat field

A session whose equation is rejected, or that was given none, goes on with the slope zero. Its
samples all have this slope, and its curves are the points of a level line that whole numbers of
steps lead to, as far as the rectangle and the limit admit. Only another equation ends this.
-/

namespace DirectionField.Proofs

/-! ## Flat sessions -/

section Sessions

variable {ε α : Type} [Numeral α]

/-- The function of the session is flat, or there is none yet and the equation will be rejected. -/
inductive Flattened (C : Calculus ε α) (s : Field α) : Prop
  | taken (f : Slope α) (message : String) (hfunction : s.function = some f)
      (hflat : IsFlat f message)
  | pending (e : EquationError) (hfunction : s.function = none)
      (hrejected : C.compile (some s.equation) = .error (.rejected e))

variable {C : Calculus ε α} {s t : Field α}

variable (s) in
lemma setEquation_of_rejected (raw : Option String) {e : EquationError}
    (h : C.compile (some (raw.getD "")) = .error (.rejected e)) :
    ∃ f, (s.setEquation C raw).result = .ok f ∧
      (s.setEquation C raw).session.function = some f ∧ IsFlat f e.message := by
  obtain ⟨hresult, hsession⟩ := setEquation_of_ok C s raw (compileOrFlat_of_rejected h)
  refine ⟨_, hresult, ?_, isFlat_flat _ _⟩
  rw [hsession]

lemma fresh_flattened {settings : Settings α} {paletteSize : ℤ}
    (h : Field.fresh settings paletteSize = .ok s) : Flattened C s := by
  unfold Field.fresh at h
  split at h
  · cases h
  · cases h
    exact .pending _ rfl compile_empty

lemma Flattened.ensureCompiled (h : Flattened C s) :
    ∃ f message, (s.ensureCompiled C).result = .ok f ∧
      (s.ensureCompiled C).session.function = some f ∧ IsFlat f message := by
  cases h with
  | taken f message hfunction hflat =>
    obtain ⟨hresult, hsession⟩ := ensureCompiled_of_some C s hfunction
    exact ⟨f, message, hresult, by rw [hsession, hfunction], hflat⟩
  | pending e hfunction hrejected =>
    rw [ensureCompiled_of_none C s hfunction]
    obtain ⟨f, hf⟩ := setEquation_of_rejected s (some s.equation) hrejected
    exact ⟨f, e.message, hf⟩

lemma Flattened.of_sameEquation (h : Flattened C s) (hst : SameEquation s t) : Flattened C t := by
  cases h with
  | taken f message hfunction hflat =>
    exact .taken f message (hst.function.trans hfunction) hflat
  | pending e hfunction hrejected =>
    rw [← hst.equation] at hrejected
    exact .pending e (hst.function.trans hfunction) hrejected

/-- A session stays flat over every command but a new equation. -/
lemma Flattened.step (h : Flattened C s) {c : Field.Command α} (hc : ∀ raw, c ≠ .setEquation raw) :
    Flattened C (s.step C c) := by
  obtain ⟨f, message, -, hfunction, hflat⟩ := h.ensureCompiled
  have hcompiled : Flattened C (s.ensureCompiled C).session := .taken f message hfunction hflat
  cases c with
  | setEquation raw => exact absurd rfl (hc raw)
  | addCurve x₀ y₀ => exact hcompiled.of_sameEquation addCurve_sameEquation
  | sample bounds density =>
    rw [Field.step, session_sample]
    exact hcompiled
  | setSettings | removeCurve | clearCurves | curves | summaries =>
    exact h.of_sameEquation ⟨rfl, rfl, rfl⟩

lemma Flattened.after (h : Flattened C s) {commands : List (Field.Command α)}
    (hc : ∀ raw, .setEquation raw ∉ commands) : Flattened C (s.after C commands) := by
  induction commands generalizing s with
  | nil => exact h
  | cons c commands ih =>
    refine ih (h.step ?_) fun raw hraw => hc raw (List.mem_cons_of_mem c hraw)
    rintro raw rfl
    exact hc raw List.mem_cons_self

end Sessions

/-! ## Samples -/

section Samples

variable {α : Type} [Arithmetic α]

lemma length_spaced (a b : α) (n : ℕ) : (Grid.spaced a b n).length = n := by
  unfold Grid.spaced
  split
  · simp_all
  · simp

/-- A function that is finite everywhere has a sample at every point of the grid, row by row. -/
lemma samples_of_finite {f : α → α → α} (hf : ∀ x y, Arithmetic.isFinite (f x y) = true)
    (xs ys : List α) :
    Grid.samples f xs ys = xs.flatMap fun x => ys.map fun y => ⟨x, y, f x y⟩ := by
  unfold Grid.samples Grid.row
  simp only [hf, if_true, List.filterMap_eq_map']

end Samples

lemma flatSlope_rat : (Slope.flatSlope : ℚ) = 0 := by
  change (0.0 : ℚ) = 0
  norm_num

section Rational

variable {ε : Type} {C : Calculus ε ℚ} {s : Field ℚ}

/-- As many samples as a square grid of this density has, all of them level. -/
def IsLevelGrid (n : ℤ) (r : Except Fault (List (Sample ℚ))) : Prop :=
  ∃ samples, r = .ok samples ∧ (samples.length : ℤ) = n * n ∧ ∀ p ∈ samples, p.slope = 0

lemma toNumber_of_isNumber {d : Datum ℚ} (hd : d.isNumber = true) : ∃ q, d.toNumber = .ok q := by
  cases d <;> simp [Datum.isNumber] at hd <;>
    simp [Datum.toNumber, Datum.whole?, Numeral.ofInt?]

lemma rectangle_of_numbers {a b c d : Datum ℚ} (ha : a.isNumber = true) (hb : b.isNumber = true)
    (hc : c.isNumber = true) (hd : d.isNumber = true) :
    ∃ r, Grid.rectangle (.list [a, b, c, d]) = .ok r := by
  obtain ⟨p, hp⟩ := toNumber_of_isNumber ha
  obtain ⟨q, hq⟩ := toNumber_of_isNumber hb
  obtain ⟨u, hu⟩ := toNumber_of_isNumber hc
  obtain ⟨v, hv⟩ := toNumber_of_isNumber hd
  exact ⟨⟨p, q, u, v⟩, rectangle_of_toNumber hp hq hu hv⟩

lemma sample_flat {f : Slope ℚ} {message : String} (hf : IsFlat f message) {bounds density : Datum ℚ}
    {r : Grid.Rectangle ℚ} {n : ℤ} (hr : Grid.rectangle bounds = .ok r)
    (hn : density.toWhole = .ok n) (hpos : 1 ≤ n) :
    IsLevelGrid n (Grid.sample f.evaluate bounds density none) := by
  have hsample : Grid.sample f.evaluate bounds density none =
      .ok (Grid.samples f.evaluate (Grid.spaced r.xMin r.xMax n.toNat)
        (Grid.spaced r.yMin r.yMax n.toNat)) :=
    sample_of_rectangle hr hn hpos f.evaluate none
  have hn' : ((n.toNat : ℕ) : ℤ) = n := Int.toNat_of_nonneg (by omega)
  rw [samples_of_finite fun _ _ => rfl] at hsample
  refine ⟨_, hsample, ?_, ?_⟩
  · rw [List.length_flatMap]
    simp [length_spaced, hn']
  · intro p hp
    obtain ⟨x, -, hp⟩ := List.mem_flatMap.mp hp
    obtain ⟨y, -, rfl⟩ := List.mem_map.mp hp
    exact (hf.evaluate x y).trans flatSlope_rat

end Rational

/-! ## Curves -/

section Curves

/-- The point on the level line through a seed after a signed number of steps. -/
def levelPoint (seed : Point ℚ) (h : ℚ) (k : ℤ) : Point ℚ := ⟨seed.x + k * h, seed.y⟩

/-- From left to right, all points on the level line through a seed that whole numbers of steps lead
to: no more steps than the limit, and none that leaves the rectangle. -/
def IsLevel (e : ExactSettings) (seed : Point ℚ) (points : List (Point ℚ)) : Prop :=
  ∃ ks : List ℤ, points = ks.map (levelPoint seed e.step) ∧ ks.Pairwise (· < ·) ∧
    ∀ k, k ∈ ks ↔
      |k| ≤ e.maxSteps ∧ e.xMin ≤ seed.x + k * e.step ∧ seed.x + k * e.step ≤ e.xMax

variable {f : ℚ → ℚ → ℚ} {e : ExactSettings} {seed : Point ℚ} {h : ℚ}

lemma next_of_flat (hf : ∀ x y, f x y = 0) (x y : ℚ) : (Stages.compute f x y h).next = y := by
  simp [Stages.compute, hf]

lemma orbit_of_flat (hf : ∀ x y, f x y = 0) (n : ℕ) : orbit f seed h n = levelPoint seed h n := by
  have hy : (orbit f seed h n).y = seed.y := by
    induction n with
    | zero => rfl
    | succ n ih => rw [orbit, next_of_flat hf, ih]
  rw [levelPoint, ← hy, Int.cast_natCast, ← orbit_x]

lemma signedOrbit_of_flat (hf : ∀ x y, f x y = 0) (k : ℤ) :
    signedOrbit f seed h k = levelPoint seed h k := by
  obtain ⟨n, rfl | rfl⟩ := k.eq_nat_or_neg
  · exact orbit_of_flat hf n
  · rw [signedOrbit_neg, orbit_of_flat hf, levelPoint, levelPoint]
    push_cast
    rw [mul_neg, neg_mul]

lemma contains_levelPoint_iff (hseed : e.Contains seed) (k : ℤ) :
    e.Contains (levelPoint seed h k) ↔ e.xMin ≤ seed.x + k * h ∧ seed.x + k * h ≤ e.xMax := by
  obtain ⟨-, -, hyMin, hyMax⟩ := hseed
  simp [ExactSettings.Contains, levelPoint, hyMin, hyMax]

/-- The level line does not come back into the rectangle once it has left it. -/
lemma contains_levelPoint_of_le (hseed : e.Contains seed) {j k : ℕ} (hjk : j ≤ k)
    (hk : e.Contains (levelPoint seed h k)) : e.Contains (levelPoint seed h j) := by
  rw [contains_levelPoint_iff hseed] at hk ⊢
  have hcast : (j : ℚ) ≤ k := Nat.cast_le.mpr hjk
  have hxMin := hseed.1
  have hxMax := hseed.2.1
  push_cast at hk ⊢
  rcases le_total 0 h with hpos | hneg
  · have hle : (j : ℚ) * h ≤ k * h := mul_le_mul_of_nonneg_right hcast hpos
    have hzero : 0 ≤ (j : ℚ) * h := mul_nonneg j.cast_nonneg hpos
    exact ⟨by linarith, by linarith⟩
  · have hle : (k : ℚ) * h ≤ j * h := mul_le_mul_of_nonpos_right hcast hneg
    have hzero : (j : ℚ) * h ≤ 0 := mul_nonpos_of_nonneg_of_nonpos j.cast_nonneg hneg
    exact ⟨by linarith, by linarith⟩

/-- A run on the level line goes over the points of the line in the rectangle. -/
lemma level_extent_le_iff (hf : ∀ x y, f x y = 0) (hseed : e.Contains seed) {limit n : ℕ}
    (hn : Extent (fun k => e.Contains (orbit f seed h (k + 1))) limit n) (k : ℕ) :
    k ≤ n ↔ k ≤ limit ∧ e.Contains (levelPoint seed h k) := by
  have hline : Extent (fun k : ℕ => e.Contains (levelPoint seed h (k + 1 : ℕ))) limit n :=
    hn.congr fun k => by rw [orbit_of_flat hf]
  refine hline.le_iff (fun k : ℕ => e.Contains (levelPoint seed h k)) ?_ ?_ k
  · simpa [levelPoint] using hseed
  · exact contains_levelPoint_of_le hseed

lemma isLevel_orbitBetween (hf : ∀ x y, f x y = 0) (hseed : e.Contains seed)
    (hlimit : 1 ≤ e.maxSteps) {m n : ℕ}
    (hm : Extent (fun k => e.Contains (orbit f seed (-e.step) (k + 1))) e.maxSteps.toNat m)
    (hn : Extent (fun k => e.Contains (orbit f seed e.step (k + 1))) e.maxSteps.toNat n) :
    IsLevel e seed (orbitBetween f seed e.step m n) := by
  refine ⟨(List.range (m + n + 1)).map fun i : ℕ => (i : ℤ) - m, ?_, ?_, ?_⟩
  · unfold orbitBetween
    rw [List.map_map]
    exact List.map_congr_left fun i _ => signedOrbit_of_flat hf _
  · rw [List.pairwise_map]
    exact List.pairwise_lt_range.imp fun hij => by omega
  · intro k
    have hmem : (k ∈ (List.range (m + n + 1)).map fun i : ℕ => (i : ℤ) - m) ↔
        -m ≤ k ∧ k ≤ n := by
      simp only [List.mem_map, List.mem_range]
      constructor
      · rintro ⟨i, hi, rfl⟩
        omega
      · rintro ⟨hmk, hkn⟩
        exact ⟨(k + m).toNat, by omega, by omega⟩
    rw [hmem, ← contains_levelPoint_iff hseed]
    -- a signed number of steps is one to the right or one to the left
    obtain ⟨j, rfl | rfl⟩ := k.eq_nat_or_neg
    · have hwithin : (j : ℤ) ≤ e.maxSteps ↔ j ≤ e.maxSteps.toNat := by omega
      rw [Nat.abs_cast, hwithin, ← level_extent_le_iff hf hseed hn]
      omega
    · have hwithin : (j : ℤ) ≤ e.maxSteps ↔ j ≤ e.maxSteps.toNat := by omega
      have hturn : levelPoint seed e.step (-j) = levelPoint seed (-e.step) j := by
        simp [levelPoint]
      rw [abs_neg, Nat.abs_cast, hwithin, hturn, ← level_extent_le_iff hf hseed hm]
      omega

variable {ε : Type} {C : Calculus ε ℚ} {s : Field ℚ} {x₀ y₀ : Datum ℚ}

lemma addCurve_level {g : Slope ℚ} {message : String} (hg : (s.ensureCompiled C).result = .ok g)
    (hflat : IsFlat g message) (he : e.Describes s.settings)
    (hvalid : s.settings.checked = .ok s.settings) (hx : x₀.toNumber = .ok seed.x)
    (hy : y₀.toNumber = .ok seed.y) (hseed : e.Contains seed) :
    ∃ c, (s.addCurve C x₀ y₀).result = .ok c ∧
      (s.addCurve C x₀ y₀).session.curves = s.curves ++ [c] ∧ c.seed = seed ∧
      IsLevel e seed c.points := by
  obtain ⟨-, -, -, hlimit⟩ := he.checked_iff.mp hvalid
  obtain ⟨c, m, n, hresult, hcurves, hc⟩ := addCurve_followsOrbit C s hg he hvalid hx hy
  have hzero (x y : ℚ) : g.value x y = 0 := (hflat.value x y).trans flatSlope_rat
  refine ⟨c, hresult, hcurves, hc.seed_eq, ?_⟩
  rw [hc.points_eq]
  exact isLevel_orbitBetween hzero hseed hlimit hc.left hc.right

end Curves

/-! ## What a session in a flat field does -/

section Level

variable {ε : Type} (C : Calculus ε ℚ)

/-- The session works in a flat field: its samples are level, over a rectangle that is given and
over that of its settings, and in all settings in numbers that pass their checks a level curve is
added through every seed in the rectangle. -/
structure WorksFlat (s : Field ℚ) : Prop where
  sample : ∀ {a b c d density : Datum ℚ} {n : ℤ}, a.isNumber = true → b.isNumber = true →
    c.isNumber = true → d.isNumber = true → density.toWhole = .ok n → 1 ≤ n →
    IsLevelGrid n (s.sample C (.list [a, b, c, d]) density).result
  sampleSettings : ∀ {density : Datum ℚ} {n : ℤ}, HasBorders s.settings →
    density.toWhole = .ok n → 1 ≤ n → IsLevelGrid n (s.sample C .missing density).result
  addCurve : ∀ {settings : Settings ℚ} {e : ExactSettings} {seed : Point ℚ} {x₀ y₀ : Datum ℚ},
    e.Describes settings → settings.checked = .ok settings → x₀.toNumber = .ok seed.x →
    y₀.toNumber = .ok seed.y → e.Contains seed →
    ∃ c, ((s.setSettings settings).addCurve C x₀ y₀).result = .ok c ∧
      ((s.setSettings settings).addCurve C x₀ y₀).session.curves = s.curves ++ [c] ∧
      c.seed = seed ∧ IsLevel e seed c.points

variable {C} {s : Field ℚ}

lemma Flattened.worksFlat (h : Flattened C s) : WorksFlat C s := by
  obtain ⟨f, message, hf, -, hflat⟩ := h.ensureCompiled
  constructor
  case sample =>
    intro a b c d density n ha hb hc hd hn hpos
    obtain ⟨r, hr⟩ := rectangle_of_numbers ha hb hc hd
    rw [result_sample hf]
    exact sample_flat hflat hr hn hpos
  case sampleSettings =>
    intro density n hs hn hpos
    obtain ⟨r, hr⟩ := rectangle_of_numbers hs.xMin hs.xMax hs.yMin hs.yMax
    rw [result_sample hf]
    exact sample_flat hflat hr hn hpos
  case addCurve =>
    intro settings e seed x₀ y₀ he hvalid hx hy hseed
    have hset : Flattened C (s.setSettings settings) := h.of_sameEquation ⟨rfl, rfl, rfl⟩
    obtain ⟨g, message', hg, -, hg'⟩ := hset.ensureCompiled
    exact addCurve_level hg hg' he hvalid hx hy hseed

/-- An equation that is rejected leaves a session that works in a flat field, and says why. So does
a session that was given no equation. Both stay like this over all commands but another equation. -/
theorem flat_without_equation {ε : Type} (C : Calculus ε ℚ) (commands : List (Field.Command ℚ))
    (hcommands : ∀ raw, .setEquation raw ∉ commands) :
    (∀ (s : Field ℚ) (raw : Option String) (e : EquationError),
      C.compile (some (raw.getD "")) = .error (.rejected e) →
      (∃ f, (s.setEquation C raw).result = .ok f ∧ f.error = some e.message) ∧
      (s.setEquation C raw).session.stage = .compileError ∧
      WorksFlat C ((s.setEquation C raw).session.after C commands)) ∧
    (∀ (settings : Settings ℚ) (paletteSize : ℤ) (s : Field ℚ),
      Field.fresh settings paletteSize = .ok s → WorksFlat C (s.after C commands)) := by
  constructor
  · intro s raw e he
    obtain ⟨f, hresult, hfunction, hflat⟩ := setEquation_of_rejected s raw he
    have hflattened : Flattened C (s.setEquation C raw).session :=
      .taken f e.message hfunction hflat
    refine ⟨⟨f, hresult, hflat.error⟩, ?_, (hflattened.after hcommands).worksFlat⟩
    rw [(setEquation_of_ok C s raw (compileOrFlat_of_rejected he)).2]
    rfl
  · intro settings paletteSize s hs
    exact ((fresh_flattened hs).after hcommands).worksFlat

/-- An unfinished quotient by `x`, with a curve through `(0, 1)`: it is level there too, where the
body divides by zero. -/
theorem flat_without_equation_quotient :
    (∀ raw, .setEquation raw ∉ [Field.Command.clearCurves (α := ℚ)]) ∧
    decayCalculus.compile (some "y/x +") = .error (.rejected ⟨"y/x +", .unreadable .badSyntax⟩) ∧
    let s := (decayField.setEquation decayCalculus (some "y/x +")).session.after decayCalculus
      [.clearCurves]
    IsLevelGrid 2 (s.sample decayCalculus
      (.list [.whole (-1), .whole 1, .real 0, .real (1 / 2)]) (.whole 2)).result ∧
    (∃ new, Field.fresh decaySettings 10 = .ok new ∧
      WorksFlat decayCalculus (new.after decayCalculus [.clearCurves])) ∧
    decaySettings.checked = .ok decaySettings ∧ decayExact.Contains ⟨0, 1⟩ ∧
    ∃ c, ((s.setSettings decaySettings).addCurve decayCalculus (.whole 0) (.whole 1)).result =
        .ok c ∧
      ((s.setSettings decaySettings).addCurve decayCalculus (.whole 0) (.whole 1)).session.curves =
        s.curves ++ [c] ∧
      c.seed = ⟨0, 1⟩ ∧ IsLevel decayExact ⟨0, 1⟩ c.points := by
  have hcommands (raw : Option String) :
      .setEquation raw ∉ [Field.Command.clearCurves (α := ℚ)] := by
    simp
  have hcompile : decayCalculus.compile (some "y/x +") =
      .error (.rejected ⟨"y/x +", .unreadable .badSyntax⟩) :=
    compile_of_rejected (by decide) (by decide +kernel)
  have hvalid : decaySettings.checked = .ok decaySettings :=
    decayExact_describes.checked_iff.mpr (by norm_num [decayExact])
  have hseed : decayExact.Contains ⟨0, 1⟩ := by
    norm_num [ExactSettings.Contains, decayExact]
  obtain ⟨hrejected, hnew⟩ := flat_without_equation decayCalculus [.clearCurves] hcommands
  obtain ⟨-, -, hflat⟩ := hrejected decayField (some "y/x +") _ hcompile
  exact ⟨hcommands, hcompile, hflat.sample rfl rfl rfl rfl rfl (by decide),
    ⟨_, rfl, hnew decaySettings 10 _ rfl⟩, hvalid, hseed,
    hflat.addCurve decayExact_describes hvalid rfl rfl hseed⟩

end Level

end DirectionField.Proofs
