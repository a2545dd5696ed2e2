import DirectionField.Proofs.IntervalCoverage

/-!
# Runs over an interval

In exact arithmetic a run over an interval has as many steps as lead up to its end, the quotient of
the distance and the width rounded up, or as many as the ceiling admits, if these are fewer. Its
abscissae are evenly spaced, and its ordinates are those of one step after the other.
-/

namespace DirectionField.Proofs

section Points

variable {α : Type} [Arithmetic α] {f : α → α → α} {seed : Point α} {h : α}

lemma getElem?_orbitUpTo {n k : ℕ} {p : Point α} :
    (orbitUpTo f seed h n)[k]? = some p ↔ k ≤ n ∧ orbit f seed h k = p := by
  unfold orbitUpTo
  rw [List.getElem?_map, Option.map_eq_some_iff]
  constructor
  · rintro ⟨j, hj, hp⟩
    obtain ⟨hk, rfl⟩ := List.getElem?_eq_some_iff.mp hj
    rw [List.getElem_range] at hp
    exact ⟨Nat.lt_succ_iff.mp (by simpa using hk), hp⟩
  · rintro ⟨hk, hp⟩
    exact ⟨k, List.getElem?_range (Nat.lt_succ_of_le hk), hp⟩

lemma dropLast_orbitUpTo (n : ℕ) :
    (orbitUpTo f seed h n).dropLast = (List.range n).map (orbit f seed h) := by
  unfold orbitUpTo
  rw [List.range_succ, List.map_append, List.map_singleton, List.dropLast_concat]

end Points

/-! ## What an interval run reads -/

section Data

variable {x₀ y₀ xEnd h ceiling : Datum ℚ} {w : ℚ} {M : ℤ}

lemma HasValue.checkStep_of_pos (hw : HasValue h w) (hpos : 0 < w) :
    Settings.checkStep h = .ok () := by
  have hzero : HasValue (.whole 0) 0 := rfl
  simp [Settings.checkStep, hzero.lt hw, hpos, Bind.bind, Except.bind, Pure.pure, Except.pure]

lemma exactValue?_of_whole? (hM : ceiling.whole? = some M) :
    ceiling.exactValue? = some (.finite M) := by
  cases ceiling <;> simp [Datum.whole?] at hM <;> simp [Datum.exactValue?, Datum.whole?, hM]

/-- A ceiling counts by its value, a truth value as the number that it is. -/
lemma interval_of_whole? (f : ℚ → ℚ → ℚ) (hM : ceiling.whole? = some M) :
    Run.interval f x₀ y₀ xEnd h ceiling = Run.interval f x₀ y₀ xEnd h (.whole M) := by
  have hsame : ceiling.exactValue? = (Datum.whole M : Datum ℚ).exactValue? := by
    rw [exactValue?_of_whole? hM]
    rfl
  unfold Run.interval Run.ceilingSteps
  rw [hsame]

lemma wholeText?_of_whole? (hM : ceiling.whole? = some M) :
    ceiling.wholeText? = some (toString M) := by
  have hnumber : ceiling.isNumber = true := by
    cases ceiling <;> simp [Datum.whole?] at hM <;> rfl
  rw [Datum.wholeText?, if_pos hnumber, toWhole_of_whole? hM]

/-- The line of the journal about a run that was cut short. -/
def ceilingEntry (M : ℤ) (x : ℚ) : Entry where
  level := .warning
  topic := "ode_integrator"
  message := "Interval integration stopped at the " ++ toString M ++ "-step ceiling (x=" ++
    Event.show6 x ++ ")."

lemma entry?_ceilingReached (hM : ceiling.whole? = some M) (x : ℚ) :
    Event.entry? (.ceilingReached ceiling x) = some (ceilingEntry M x) := by
  rw [ceilingEntry, Event.entry?, wholeText?_of_whole? hM]
  rfl

end Data

/-! ## Exact arithmetic -/

section Exact

variable {x₀ y₀ xEnd h ceiling : Datum ℚ} {seed : Point ℚ} {e w : ℚ} {M : ℤ}

lemma stepsBetween_eq_max (a b w : ℚ) : (stepsBetween a b w : ℤ) = max 0 ⌈(b - a) / w⌉ := by
  rw [stepsBetween, ← Int.ceil_toNat, Int.toNat_eq_max, max_comm]

lemma lt_xEnd_iff (f : ℚ → ℚ → ℚ) (hpos : 0 < w) (n : ℕ) :
    (orbit f seed w n).x < e ↔ n < stepsBetween seed.x e w := by
  rw [← startsBefore_iff (f := f) hpos, StartsBefore, lt_rat, decide_eq_true_iff]

/-- A run over an interval returns the points of a number of steps: of those between the seed and
the end, rounded up, at most as many as the ceiling admits. The point after `n` steps is `n` widths
from the seed, each ordinate is that of a step from the point before, and only the last point may
have reached the end. The journal warns of the ceiling exactly if it has not. -/
theorem interval_spaced_to_end (f : ℚ → ℚ → ℚ) (hx : x₀.toNumber = .ok seed.x)
    (hy : y₀.toNumber = .ok seed.y) (he : xEnd.toNumber = .ok e) (hw : HasValue h w) (hpos : 0 < w)
    (hM : ceiling.whole? = some M) :
    ∃ r last, ∃ N : ℕ, Run.interval f x₀ y₀ xEnd h ceiling = .ok r ∧
      (N : ℤ) = min (max 0 M) (max 0 ⌈(e - seed.x) / w⌉) ∧ r.points.length = N + 1 ∧
      r.points[0]? = some seed ∧ r.points.getLast? = some last ∧
      (∀ (n : ℕ) (p : Point ℚ), r.points[n]? = some p → p.x = seed.x + n * w) ∧
      (∀ (n : ℕ) (p q : Point ℚ), r.points[n]? = some p → r.points[n + 1]? = some q →
        q.y = (Stages.compute f p.x p.y w).next) ∧
      (∀ p ∈ r.points.dropLast, p.x < e) ∧
      (r.intervalEvents ceiling).filterMap Event.entry? =
        if last.x < e then [ceilingEntry M last.x] else [] := by
  have hrun : Run.interval f x₀ y₀ xEnd h ceiling = .ok (Run.upTo f seed e w M.toNat) := by
    rw [interval_of_whole? f hM]
    exact interval_of_numbers (hw.checkStep_of_pos hpos) hx hy he hw.toNumber M
  rw [upTo_rational hpos] at hrun
  set total := stepsBetween seed.x e w with htotal
  set N := min M.toNat total with hN
  have hlast : (orbit f seed w N).x < e ↔ M.toNat < total := by
    rw [lt_xEnd_iff f hpos]
    omega
  refine ⟨_, orbit f seed w N, N, hrun, ?_, length_orbitUpTo f seed w N,
    getElem?_orbitUpTo.mpr ⟨N.zero_le, rfl⟩, getLast?_orbitUpTo N, ?_, ?_, ?_, ?_⟩
  · rw [← stepsBetween_eq_max]
    omega
  · intro n p hp
    obtain ⟨-, rfl⟩ := getElem?_orbitUpTo.mp hp
    exact orbit_x f seed w n
  · intro n p q hp hq
    obtain ⟨-, rfl⟩ := getElem?_orbitUpTo.mp hp
    obtain ⟨-, rfl⟩ := getElem?_orbitUpTo.mp hq
    rfl
  · intro p hp
    rw [dropLast_orbitUpTo, List.mem_map] at hp
    obtain ⟨k, hk, rfl⟩ := hp
    have hkN := List.mem_range.mp hk
    rw [lt_xEnd_iff f hpos]
    omega
  · unfold Run.intervalEvents
    by_cases hcut : M.toNat < total
    · simp [hcut, hlast, getLast?_orbitUpTo, entry?_ceilingReached hM]
    · simp [hcut, hlast]

/-- Decay over a unit interval in two halves, under a ceiling of two steps: the end is reached with
the last one that is admitted, so there is no warning. -/
theorem interval_spaced_to_end_halves :
    HasValue (.real (1 / 2)) (1 / 2 : ℚ) ∧ (0 : ℚ) < 1 / 2 ∧
    (Datum.whole 2 : Datum ℚ).whole? = some 2 ∧
    ∃ r last, Run.interval (fun _ y : ℚ => -y) (.whole 0) (.whole 1) (.whole 1) (.real (1 / 2))
        (.whole 2) = .ok r ∧
      r.points.length = 3 ∧ r.points.getLast? = some last ∧ last.x = 1 ∧
      (r.intervalEvents (.whole 2)).filterMap Event.entry? = [] := by
  have hw : HasValue (.real (1 / 2)) (1 / 2 : ℚ) := rfl
  have hpos : (0 : ℚ) < 1 / 2 := by norm_num
  have hM : (Datum.whole 2 : Datum ℚ).whole? = some 2 := rfl
  have he : (Datum.whole 1 : Datum ℚ).toNumber = .ok 1 := rfl
  have hx : (Datum.whole 0 : Datum ℚ).toNumber = .ok (⟨0, 1⟩ : Point ℚ).x := rfl
  have hy : (Datum.whole 1 : Datum ℚ).toNumber = .ok (⟨0, 1⟩ : Point ℚ).y := rfl
  obtain ⟨r, last, N, hr, hN, hlength, -, hlast, habscissa, -, -, hjournal⟩ :=
    interval_spaced_to_end (fun _ y => -y) hx hy he hw hpos hM
  have hsteps : ⌈((1 : ℚ) - 0) / (1 / 2)⌉ = 2 := by norm_num
  have hcount : N = 2 := by
    have hN' : (N : ℤ) = min (max 0 2) (max 0 2) := hsteps ▸ hN
    omega
  have hend : last.x = 1 := by
    rw [List.getLast?_eq_getElem?, hlength, hcount] at hlast
    rw [habscissa _ _ hlast]
    norm_num
  rw [hend] at hjournal
  exact ⟨hw, hpos, hM, r, last, hr, by rw [hlength, hcount], hlast, hend, hjournal⟩

end Exact

end DirectionField.Proofs
