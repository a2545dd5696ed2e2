import DirectionField.Proofs.FinitePoints
import DirectionField.Proofs.IntervalRuns

/-!
# Runs that are taken up again

The abscissa of a point is counted in steps from the seed of its run. In exact arithmetic it makes
no difference from which point of the run it is counted: a run from a point of another one, with the
steps that are left to this one, goes over the rest of its points and ends for the same reason.
-/

namespace DirectionField.Proofs

/-! ## The loops -/

section Loops

variable {f : ℚ → ℚ → ℚ} {h : ℚ}

/-- A run that continues from some earlier points. -/
def behind (earlier : List (Point ℚ)) (r : Run ℚ) : Run ℚ := ⟨earlier ++ r.points, r.ending⟩

lemma rest_of_behind {earlier : List (Point ℚ)} {r r' : Run ℚ} {i : ℕ} (h : behind earlier r' = r)
    (hlength : earlier.length = i) : r' = ⟨r.points.drop i, r.ending⟩ := by
  rw [← h, behind, List.drop_left' hlength]

lemma abscissa_add (x₀ h : ℚ) (i n : ℕ) :
    Run.abscissa x₀ h (i + n) = Run.abscissa (Run.abscissa x₀ h i) h n := by
  simp only [Run.abscissa, ofInt_rat]
  push_cast
  ring

/-- The loop in a region does the same when its steps are counted from a later point, and the points
before that one are left out. -/
lemma insideFrom_shift (region : Point ℚ → Except Fault Bool) (x₀ : ℚ) (i : ℕ)
    (earlier : List (Point ℚ)) (remaining n : ℕ) (here : Point ℚ) (passed : List (Point ℚ)) :
    Run.insideFrom f region x₀ h remaining (i + n) here (passed ++ earlier) =
      (Run.insideFrom f region (Run.abscissa x₀ h i) h remaining n here passed).map
        (behind earlier.reverse) := by
  induction remaining generalizing n here passed with
  | zero => simp [Run.insideFrom, Except.map, behind]
  | succ remaining ih =>
    rw [Run.insideFrom, Run.insideFrom]
    dsimp only
    rw [abscissa_add]
    split
    · split
      · rfl
      · exact ih (n + 1) _ (_ :: passed)
      · simp [Except.map, behind]
    · simp [Except.map, behind]

/-- So does the loop up to the end of an interval. -/
lemma upToFrom_shift (x₀ xEnd : ℚ) (i : ℕ) (earlier : List (Point ℚ)) (remaining n : ℕ)
    (here : Point ℚ) (passed : List (Point ℚ)) :
    Run.upToFrom f x₀ h xEnd remaining (i + n) here (passed ++ earlier) =
      behind earlier.reverse
        (Run.upToFrom f (Run.abscissa x₀ h i) h xEnd remaining n here passed) := by
  induction remaining generalizing n here passed with
  | zero => simp [Run.upToFrom, behind]
  | succ remaining ih =>
    rw [Run.upToFrom, Run.upToFrom]
    dsimp only
    rw [abscissa_add]
    split
    · exact ih (n + 1) _ (_ :: passed)
    · simp [behind]

variable {seed p : Point ℚ} {limit i : ℕ} {r : Run ℚ}

lemma reverse_orbitUpTo (i : ℕ) :
    (orbitUpTo f seed h i).reverse =
      [orbit f seed h i] ++ ((List.range i).map (orbit f seed h)).reverse := by
  rw [orbitUpTo, List.range_succ, List.map_append, List.reverse_append]
  rfl

lemma abscissa_eq_orbit_x (i : ℕ) : Run.abscissa seed.x h i = (orbit f seed h i).x := by
  rw [orbit_x, Run.abscissa]
  rfl

lemma inside_resumed {region : Point ℚ → Except Fault Bool}
    (hr : Run.inside f region seed h limit = .ok r) (hp : r.points[i]? = some p) :
    Run.inside f region p h (limit - i) = .ok ⟨r.points.drop i, r.ending⟩ := by
  obtain ⟨n, hn, hpoints⟩ := inside_extent hr
  rw [hpoints] at hp
  obtain ⟨hin, rfl⟩ := getElem?_orbitUpTo.mp hp
  obtain ⟨rest, rfl⟩ := Nat.exists_eq_add_of_le' (hin.trans hn.within)
  have heach : ∀ k < i, AdmittedIn f region seed h k := fun k hk => hn.each k (by omega)
  rw [Run.inside, insideFrom_of_each heach, reverse_orbitUpTo, insideFrom_shift,
    abscissa_eq_orbit_x (f := f), map_eq_ok] at hr
  obtain ⟨r', hr', hbehind⟩ := hr
  rw [Nat.add_sub_cancel, Run.inside, hr', rest_of_behind (i := i) hbehind (by simp)]

lemma upTo_resumed {xEnd : ℚ} (hr : Run.upTo f seed xEnd h limit = r)
    (hp : r.points[i]? = some p) :
    Run.upTo f p xEnd h (limit - i) = ⟨r.points.drop i, r.ending⟩ := by
  obtain ⟨n, hn, hpoints⟩ := upTo_extent f seed h xEnd limit
  rw [← hr, hpoints] at hp
  obtain ⟨hin, rfl⟩ := getElem?_orbitUpTo.mp hp
  obtain ⟨rest, rfl⟩ := Nat.exists_eq_add_of_le' (hin.trans hn.within)
  have heach : ∀ k < i, StartsBefore f seed h xEnd k := fun k hk => hn.each k (by omega)
  rw [Run.upTo, upToFrom_of_each heach, reverse_orbitUpTo, upToFrom_shift,
    abscissa_eq_orbit_x (f := f)] at hr
  rw [Nat.add_sub_cancel]
  exact rest_of_behind hr (by simp)

end Loops

/-! ## Runs from given values -/

section Runs

variable {f : ℚ → ℚ → ℚ} {x₀ y₀ xEnd h ceiling : Datum ℚ} {q : ℚ} {r : Run ℚ}

lemma ceil_rat (q : ℚ) : q.ceil = ⌈q⌉ :=
  eq_of_forall_ge_iff fun _ => Rat.ceil_le_iff.trans Int.ceil_le.symm

/-- A ceiling that is no whole number admits as many steps as the whole number above it. -/
lemma interval_of_hasValue (hq : HasValue ceiling q) :
    Run.interval f x₀ y₀ xEnd h ceiling = Run.interval f x₀ y₀ xEnd h (.whole ⌈q⌉) := by
  have hsteps (x e w : ℚ) :
      Run.ceilingSteps x e w ceiling = Run.ceilingSteps x e w (.whole ⌈q⌉) := by
    rw [ceilingSteps_whole, Run.ceilingSteps, hq, ← ceil_rat]
  unfold Run.interval
  simp only [hsteps]

lemma interval_eq_upTo (hq : HasValue ceiling q)
    (hr : Run.interval f x₀ y₀ xEnd h ceiling = .ok r) :
    ∃ seed e w, xEnd.toNumber = .ok e ∧ h.toNumber = .ok w ∧ Settings.checkStep h = .ok () ∧
      Run.upTo f seed e w ⌈q⌉.toNat = r := by
  obtain ⟨seed, e, w, n, hx, hy, he, hw, hstep, -, -⟩ := interval_extent hr
  rw [interval_of_hasValue hq, interval_of_numbers hstep hx hy he hw, Except.ok.injEq] at hr
  exact ⟨seed, e, w, he, hw, hstep, hr⟩

/-- A run from a point of another run, in the same settings or over the same interval, and with the
limit that is left there, returns: its points are those of the other run from that point on, and it
ends for the same reason. -/
theorem resumed_runs_continue (f : ℚ → ℚ → ℚ) {x₀ y₀ h : Datum ℚ} {r : Run ℚ} {i : ℕ} {p : Point ℚ}
    (hp : r.points[i]? = some p) :
    (∀ (s : Settings ℚ) (direction maxSteps : Datum ℚ) (M : ℤ), AsksFor s maxSteps M →
      Run.box f x₀ y₀ h s direction maxSteps = .ok r →
      Run.box f (.real p.x) (.real p.y) h s direction (.whole (M - i)) =
        .ok ⟨r.points.drop i, r.ending⟩) ∧
    ∀ (xEnd ceiling ceiling' : Datum ℚ) (M : ℚ), HasValue ceiling M → HasValue ceiling' (M - i) →
      Run.interval f x₀ y₀ xEnd h ceiling = .ok r →
      Run.interval f (.real p.x) (.real p.y) xEnd h ceiling' =
        .ok ⟨r.points.drop i, r.ending⟩ := by
  constructor
  · intro s direction maxSteps M hM hr
    obtain ⟨d, hd, hdirection⟩ := direction_of_box hr
    rw [box_of_isEqual hd hdirection] at hr ⊢
    obtain ⟨seed, w, limit, -, -, hw, hlimit, hrun⟩ := (box_ok_iff hd).mp hr
    have hbound := Except.ok.inj (hlimit.symm.trans hM.boxLimit)
    have hleft : boxLimit s (.whole (M - i)) = .ok (limit - i) := by
      have hrest : (M - i).toNat = limit - i := by omega
      rw [← hrest]
      rfl
    exact (box_ok_iff hd).mpr ⟨p, w, limit - i, rfl, rfl, hw, hleft, inside_resumed hrun hp⟩
  · intro xEnd ceiling ceiling' M hM hM' hr
    obtain ⟨seed, e, w, he, hw, hstep, hrun⟩ := interval_eq_upTo hM hr
    have hrest : ⌈M - i⌉.toNat = ⌈M⌉.toNat - i := by
      rw [Int.ceil_sub_natCast]
      omega
    have hx : (Datum.real p.x : Datum ℚ).toNumber = .ok p.x := rfl
    have hy : (Datum.real p.y : Datum ℚ).toNumber = .ok p.y := rfl
    rw [interval_of_hasValue hM', interval_of_numbers hstep hx hy he hw, hrest,
      upTo_resumed hrun hp]

/-- Decay from the left border of a rectangle, three steps as its settings admit, and over an
interval under a ceiling of two and a half: both are taken up again after the first step. -/
theorem resumed_runs_continue_decay :
    AsksFor decaySettings .missing 3 ∧ HasValue (.real (5 / 2)) (5 / 2 : ℚ) ∧
    HasValue (.real (3 / 2)) (5 / 2 - (1 : ℕ) : ℚ) ∧
    (∃ r p, Run.box decaySlope.value (.whole (-1)) (.whole 1) decaySettings.step decaySettings
        (.whole 1) .missing = .ok r ∧
      r.points.length = 4 ∧ r.points[1]? = some p ∧
      Run.box decaySlope.value (.real p.x) (.real p.y) decaySettings.step decaySettings
        (.whole 1) (.whole 2) = .ok ⟨r.points.drop 1, .exhausted⟩) ∧
    ∃ r p, Run.interval decaySlope.value (.whole (-1)) (.whole 1) (.whole 1) decaySettings.step
        (.real (5 / 2)) = .ok r ∧
      r.points.length = 4 ∧ r.points[1]? = some p ∧
      Run.interval decaySlope.value (.real p.x) (.real p.y) (.whole 1) decaySettings.step
        (.real (3 / 2)) = .ok ⟨r.points.drop 1, .ceiling⟩ := by
  have hM : AsksFor decaySettings .missing 3 := rfl
  have hceiling : HasValue (.real (5 / 2)) (5 / 2 : ℚ) := rfl
  have hceiling' : HasValue (.real (3 / 2)) (5 / 2 - (1 : ℕ) : ℚ) := by
    norm_num [HasValue, Datum.exactValue?]
  obtain ⟨r, hr, hlength, hending⟩ := exists_of_decided
    (x := Run.box decaySlope.value (.whole (-1)) (.whole 1) decaySettings.step decaySettings
      (.whole 1) .missing)
    (P := fun r => r.points.length = 4 ∧ r.ending = .exhausted) (by decide +kernel)
  obtain ⟨q, hq, hlength', hending'⟩ := exists_of_decided
    (x := Run.interval decaySlope.value (.whole (-1)) (.whole 1) (.whole 1) decaySettings.step
      (.real (5 / 2)))
    (P := fun r => r.points.length = 4 ∧ r.ending = .ceiling) (by decide +kernel)
  have hp : r.points[1]? = some r.points[1] := List.getElem?_eq_getElem (by omega)
  have hp' : q.points[1]? = some q.points[1] := List.getElem?_eq_getElem (by omega)
  have hbox := (resumed_runs_continue decaySlope.value hp).1 _ _ _ 3 hM hr
  have hinterval := (resumed_runs_continue decaySlope.value hp').2 _ _ _ _ hceiling hceiling' hq
  rw [hending] at hbox
  rw [hending'] at hinterval
  exact ⟨hM, hceiling, hceiling', ⟨r, _, hr, hlength, hp, hbox⟩, q, _, hq, hlength', hp', hinterval⟩

end Runs

end DirectionField.Proofs
