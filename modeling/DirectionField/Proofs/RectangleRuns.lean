import DirectionField.Proofs.RunExtent

/-!
# Runs in a rectangle

A run in a rectangle gives the longest initial part of its orbit, within its limit, with no
inadmissible step: one whose increments or next point are not finite, or whose next point lies
outside. What stopped the run is told by its ending. Nothing is asked of the arithmetic.
-/

namespace DirectionField.Proofs

lemma Extent.isGreatest {admitted : ℕ → Prop} {limit n : ℕ} (h : Extent admitted limit n) :
    IsGreatest {m : ℕ | m ≤ limit ∧ ∀ k < m, admitted k} n := by
  refine ⟨⟨h.within, h.each⟩, ?_⟩
  rintro m ⟨hm, heach⟩
  by_contra hle
  have hnm : n < m := Nat.lt_of_not_le hle
  exact h.maximal (lt_of_lt_of_le hnm hm) (heach n hnm)

section Loop

variable {α : Type} [Arithmetic α] {f : α → α → α} {region : Point α → Except Fault Bool}
  {seed : Point α} {h : α}

/-- Both coordinates are finite numbers. -/
structure IsFinitePoint (p : Point α) : Prop where
  x : Arithmetic.isFinite p.x = true
  y : Arithmetic.isFinite p.y = true

/-- The increments of the step from the `n`-th point of an orbit and the next point are finite. -/
structure FiniteStep (f : α → α → α) (seed : Point α) (h : α) (n : ℕ) : Prop where
  stages : (Stages.compute f (orbit f seed h n).x (orbit f seed h n).y h).areFinite = true
  abscissa : Arithmetic.isFinite (orbit f seed h (n + 1)).x = true

lemma AdmittedIn.finiteStep {n : ℕ} (hadm : AdmittedIn f region seed h n) :
    FiniteStep f seed h n :=
  ⟨hadm.stages, hadm.abscissa⟩

lemma FiniteStep.next {n : ℕ} (hfin : FiniteStep f seed h n) :
    IsFinitePoint (orbit f seed h (n + 1)) := by
  have hall := hfin.stages
  simp only [Stages.areFinite, List.all_cons, List.all_nil, Bool.and_eq_true] at hall
  exact ⟨hfin.abscissa, hall.2.2.2.2.1⟩

lemma tail_orbitUpTo (n : ℕ) :
    (orbitUpTo f seed h n).tail = (List.range n).map fun k => orbit f seed h (k + 1) := by
  unfold orbitUpTo
  rw [List.range_succ_eq_map, List.map_cons, List.tail_cons, List.map_map]
  rfl

/-- Why a run of `n` steps under a limit ended. -/
inductive EndsBy (f : α → α → α) (region : Point α → Except Fault Bool) (seed : Point α) (h : α)
    (limit n : ℕ) : Ending → Prop
  | exhausted (hn : n = limit) : EndsBy f region seed h limit n .exhausted
  | notFinite (hn : n < limit) (hstep : ¬ FiniteStep f seed h n) :
      EndsBy f region seed h limit n .notFinite
  | outside (hn : n < limit) (hstep : FiniteStep f seed h n)
      (hnext : region (orbit f seed h (n + 1)) = .ok false) :
      EndsBy f region seed h limit n .outside

/-- Admissible steps bring the loop from the seed to the point after them. -/
lemma insideFrom_of_each {m : ℕ} (hadm : ∀ k < m, AdmittedIn f region seed h k) (remaining : ℕ) :
    Run.insideFrom f region seed.x h (remaining + m) 1 seed [seed] =
      Run.insideFrom f region seed.x h remaining (m + 1) (orbit f seed h m)
        (orbitUpTo f seed h m).reverse := by
  induction m generalizing remaining with
  | zero => rfl
  | succ m ih =>
    have hbefore : ∀ k < m, AdmittedIn f region seed h k := fun k hk => hadm k (by omega)
    have hcount : remaining + (m + 1) = remaining + 1 + m := by omega
    rw [hcount, ih hbefore (remaining + 1)]
    exact insideFrom_of_admitted (hadm m (Nat.lt_succ_self m)) remaining

lemma ending_of_refused {n limit remaining : ℕ} {r : Run α} (hn : n < limit)
    (hno : ¬ AdmittedIn f region seed h n)
    (hr : Run.insideFrom f region seed.x h (remaining + 1) (n + 1) (orbit f seed h n)
      (orbitUpTo f seed h n).reverse = .ok r) : EndsBy f region seed h limit n r.ending := by
  rw [Run.insideFrom] at hr
  dsimp only at hr
  split at hr
  · rename_i hfin
    rw [Bool.and_eq_true] at hfin
    split at hr
    · cases hr
    · rename_i hin
      exact absurd ⟨hfin.1, hfin.2, hin⟩ hno
    · rename_i hout
      cases hr
      exact .outside hn ⟨hfin.1, hfin.2⟩ hout
  · rename_i hfin
    rw [Bool.and_eq_true] at hfin
    cases hr
    exact .notFinite hn fun hstep => hfin ⟨hstep.stages, hstep.abscissa⟩

lemma inside_ending {limit n : ℕ} {r : Run α} (hn : Extent (AdmittedIn f region seed h) limit n)
    (hr : Run.inside f region seed h limit = .ok r) :
    EndsBy f region seed h limit n r.ending := by
  obtain ⟨rest, hrest⟩ := Nat.exists_eq_add_of_le' hn.within
  rw [Run.inside, hrest, insideFrom_of_each hn.each] at hr
  cases rest with
  | zero =>
    rw [Run.insideFrom, Except.ok.injEq] at hr
    rw [← hr]
    exact .exhausted (by omega)
  | succ rest =>
    have hlt : n < limit := by omega
    exact ending_of_refused hlt (hn.maximal hlt) hr

end Loop

section Runs

variable {α : Type} [Numeral α] {s : Settings α} {direction maxSteps : Datum α} {M : ℤ}

/-- The number of steps that is asked for: the one that is given, or else that of the settings. -/
def AsksFor (s : Settings α) (maxSteps : Datum α) (M : ℤ) : Prop :=
  if maxSteps.isMissing then s.maxSteps.whole? = some M else maxSteps.toWhole = .ok M

lemma AsksFor.boxLimit (h : AsksFor s maxSteps M) : boxLimit s maxSteps = .ok M.toNat := by
  unfold AsksFor at h
  unfold Proofs.boxLimit
  split at h
  · rename_i hmissing
    rw [if_pos hmissing, Run.stepLimit, h]
  · rename_i hgiven
    rw [if_neg hgiven, h]
    rfl

variable {f : α → α → α} {x₀ y₀ h : Datum α}

/-- A direction counts by its value, in whatever spelling. -/
lemma box_of_isEqual {d : ℤ} (hd : d = 1 ∨ d = -1)
    (hdirection : direction.isEqual (.whole d) = true) :
    Run.box f x₀ y₀ h s direction maxSteps = Run.box f x₀ y₀ h s (.whole d) maxSteps := by
  have hvalue := isEqual_whole_iff.mp hdirection
  have hsame (m : ℤ) : direction.isEqual (.whole m) = decide (d = m) := by
    rw [Bool.eq_iff_iff, isEqual_whole_iff, hvalue]
    simp
  unfold Run.box
  rcases hd with rfl | rfl <;> simp [hsame, isEqual_whole]

variable {seed : Point α} {w : α}

/-- A run from a seed in numbers, in a rectangle with borders in numbers, returns the points of its
orbit up to the greatest number of steps that is at most the one asked for and such that all steps
up to there are admissible. So the points after the seed are finite and lie in the rectangle, and
the run ends either at its limit or before the first step that is not admissible. -/
theorem box_longest_admissible (f : α → α → α) {d : ℤ} (hd : d = 1 ∨ d = -1)
    (hdirection : direction.isEqual (.whole d) = true) (hs : HasBorders s)
    (hx : x₀.toNumber = .ok seed.x) (hy : y₀.toNumber = .ok seed.y) (hw : h.toNumber = .ok w)
    (hM : AsksFor s maxSteps M) :
    ∃ r N, Run.box f x₀ y₀ h s direction maxSteps = .ok r ∧
      r.points = orbitUpTo f seed (signedWidth d w) N ∧
      IsGreatest {n : ℕ | (n : ℤ) ≤ max M 0 ∧
        ∀ k < n, AdmittedIn f (regionOf s) seed (signedWidth d w) k} N ∧
      (∀ p ∈ r.points.tail, IsFinitePoint p ∧ regionOf s p = .ok true) ∧
      (r.points.length : ℤ) ≤ max M 0 + 1 ∧
      EndsBy f (regionOf s) seed (signedWidth d w) M.toNat N r.ending := by
  have hmax (n : ℕ) : (n : ℤ) ≤ max M 0 ↔ n ≤ M.toNat := by omega
  obtain ⟨r, hr⟩ := box_returns (f := f) hs hd hx hy hw hM.boxLimit
  obtain ⟨p, v, limit, hpx, hpy, hv, hlimit, hrun⟩ := (box_ok_iff hd).mp hr
  have hseed := seed_unique hpx hpy hx hy
  have hwidth := Except.ok.inj (hv.symm.trans hw)
  have hbound := Except.ok.inj (hlimit.symm.trans hM.boxLimit)
  subst hseed hwidth hbound
  obtain ⟨N, hN, hpoints⟩ := inside_extent hrun
  refine ⟨r, N, (box_of_isEqual hd hdirection).trans hr, hpoints, ?_, ?_, ?_,
    inside_ending hN hrun⟩
  · simpa only [hmax] using hN.isGreatest
  · intro q hq
    rw [hpoints, tail_orbitUpTo, List.mem_map] at hq
    obtain ⟨k, hk, rfl⟩ := hq
    have hadm := hN.each k (List.mem_range.mp hk)
    exact ⟨hadm.finiteStep.next, hadm.inside⟩
  · have hle := (hmax N).mpr hN.within
    rw [hpoints, length_orbitUpTo]
    push_cast
    linarith

end Runs

/-- The reciprocal of the abscissa, followed to the left from a quarter: the step to zero has an
infinite increment, so the run has one step and says why there are no more. -/
theorem box_longest_admissible_reciprocal :
    (Datum.real (-1) : Datum Float).isEqual (.whole (-1)) = true ∧
    AsksFor (Settings.standard : Settings Float) (.whole 9) 9 ∧
    ∃ r N, Run.box (fun x _ => 1 / x) (.real 0.25) (.real 1) (.real 0.125)
        (Settings.standard : Settings Float) (.real (-1)) (.whole 9) = .ok r ∧
      r.points = orbitUpTo (fun x _ => 1 / x) ⟨0.25, 1⟩ (signedWidth (-1) 0.125) N ∧
      IsGreatest {n : ℕ | (n : ℤ) ≤ max 9 0 ∧ ∀ k < n, AdmittedIn (fun x _ => 1 / x)
        (regionOf (Settings.standard : Settings Float)) ⟨0.25, 1⟩ (signedWidth (-1) 0.125) k} N ∧
      N = 1 ∧ r.ending = .notFinite := by
  have hdirection : (Datum.real (-1) : Datum Float).isEqual (.whole (-1)) = true := by
    decide +kernel
  have hs : HasBorders (Settings.standard : Settings Float) := ⟨rfl, rfl, rfl, rfl⟩
  have hM : AsksFor (Settings.standard : Settings Float) (.whole 9) 9 := rfl
  obtain ⟨r', hr', hlength, hending⟩ := exists_of_decided
    (x := Run.box (fun x _ => 1 / x) (.real 0.25) (.real 1) (.real 0.125)
      (Settings.standard : Settings Float) (.real (-1)) (.whole 9))
    (P := fun r => r.points.length = 2 ∧ r.ending = .notFinite) (by decide +kernel)
  have hx : (Datum.real 0.25 : Datum Float).toNumber = .ok (⟨0.25, 1⟩ : Point Float).x := rfl
  have hy : (Datum.real 1 : Datum Float).toNumber = .ok (⟨0.25, 1⟩ : Point Float).y := rfl
  have hw : (Datum.real 0.125 : Datum Float).toNumber = .ok 0.125 := rfl
  obtain ⟨r, N, hr, hpoints, hN, -, -, -⟩ :=
    box_longest_admissible (fun x _ => 1 / x) (.inr rfl) hdirection hs hx hy hw hM
  have hsame : r' = r := Except.ok.inj (hr'.symm.trans hr)
  subst hsame
  rw [hpoints, length_orbitUpTo] at hlength
  exact ⟨hdirection, hM, r', N, hr', hpoints, hN, Nat.succ.inj hlength, hending⟩

end DirectionField.Proofs
