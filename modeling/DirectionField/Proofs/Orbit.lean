import DirectionField.Trajectory
import Mathlib

/-!
# Runs as initial parts of an orbit

The steps of one width from a seed make an infinite sequence of points, the orbit. A run of either
kind gives an initial part of it: as many steps as its limit and its own test of each step admit.
Nothing is asked of the arithmetic here.
-/

namespace DirectionField.Proofs

section Orbit

variable {α : Type} [Arithmetic α]

/-- The point after a number of steps of width `h` from a seed. -/
def orbit (f : α → α → α) (seed : Point α) (h : α) : Nat → Point α
  | 0 => seed
  | n + 1 =>
    let p := orbit f seed h n
    ⟨Run.abscissa seed.x h (n + 1), (Stages.compute f p.x p.y h).next⟩

/-- The points of an orbit up to the one after `n` steps. -/
def orbitUpTo (f : α → α → α) (seed : Point α) (h : α) (n : Nat) : List (Point α) :=
  (List.range (n + 1)).map (orbit f seed h)

variable (f : α → α → α) (seed : Point α) (h : α)

lemma orbitUpTo_succ (n : Nat) :
    orbitUpTo f seed h (n + 1) = orbitUpTo f seed h n ++ [orbit f seed h (n + 1)] := by
  unfold orbitUpTo
  rw [List.range_succ, List.map_append, List.map_singleton]

lemma length_orbitUpTo (n : Nat) : (orbitUpTo f seed h n).length = n + 1 := by
  simp [orbitUpTo]

lemma orbitUpTo_mono {m n : Nat} (hmn : m ≤ n) :
    orbitUpTo f seed h m <+: orbitUpTo f seed h n := by
  obtain ⟨k, rfl⟩ := Nat.exists_eq_add_of_le hmn
  induction k with
  | zero => exact List.prefix_refl _
  | succ k ih =>
    rw [← Nat.add_assoc, orbitUpTo_succ]
    exact (ih (by omega)).trans (List.prefix_append _ _)

lemma orbitUpTo_comparable (m n : Nat) :
    orbitUpTo f seed h m <+: orbitUpTo f seed h n ∨
      orbitUpTo f seed h n <+: orbitUpTo f seed h m := by
  rcases Nat.le_total m n with hmn | hnm
  · exact .inl (orbitUpTo_mono f seed h hmn)
  · exact .inr (orbitUpTo_mono f seed h hnm)

end Orbit

/-! ## How far a run goes -/

/-- `n` is the largest number within a limit such that every step before it is admitted. -/
structure Extent (admitted : Nat → Prop) (limit n : Nat) : Prop where
  within : n ≤ limit
  each : ∀ k < n, admitted k
  maximal : n < limit → ¬ admitted n

namespace Extent

variable {admitted admitted' : Nat → Prop} {limit limit' n n' : Nat}

lemma zero_limit : Extent admitted 0 0 :=
  ⟨le_rfl, fun k hk => absurd hk (Nat.not_lt_zero k), fun hlt => absurd hlt (lt_irrefl 0)⟩

lemma zero_of_refused (h : ¬ admitted 0) : Extent admitted limit 0 :=
  ⟨Nat.zero_le _, fun k hk => absurd hk (Nat.not_lt_zero k), fun _ => h⟩

lemma cons (h0 : admitted 0) (h : Extent (fun k => admitted (k + 1)) limit n) :
    Extent admitted (limit + 1) (n + 1) := by
  refine ⟨Nat.succ_le_succ h.within, ?_, fun hn => h.maximal (Nat.lt_of_succ_lt_succ hn)⟩
  intro k hk
  cases k with
  | zero => exact h0
  | succ k => exact h.each k (Nat.lt_of_succ_lt_succ hk)

lemma congr (h : Extent admitted limit n) (hiff : ∀ k, admitted k ↔ admitted' k) :
    Extent admitted' limit n :=
  ⟨h.within, fun k hk => (hiff k).mp (h.each k hk), fun hn => mt (hiff n).mpr (h.maximal hn)⟩

/-- Where the admitted steps are those to an initial part of the points, the points that are reached
are these within the limit. -/
lemma le_iff (reachable : Nat → Prop) (h : Extent (fun k => reachable (k + 1)) limit n)
    (hzero : reachable 0) (hdown : ∀ {j k}, j ≤ k → reachable k → reachable j) (k : Nat) :
    k ≤ n ↔ k ≤ limit ∧ reachable k := by
  constructor
  · intro hk
    refine ⟨hk.trans h.within, ?_⟩
    cases k with
    | zero => exact hzero
    | succ k => exact h.each k hk
  · rintro ⟨hlimit, hreach⟩
    by_contra hlt
    have hn : n < k := Nat.lt_of_not_le hlt
    exact h.maximal (lt_of_lt_of_le hn hlimit) (hdown hn hreach)

/-- More steps are done where more are admitted, up to a larger limit. -/
lemma le_of_imp (h : Extent admitted limit n) (h' : Extent admitted' limit' n')
    (himp : ∀ k, admitted k → admitted' k) (hl : limit ≤ limit') : n ≤ n' := by
  by_contra hlt
  have hn : n' < n := Nat.lt_of_not_le hlt
  have hn' : n' < limit' := lt_of_lt_of_le hn (h.within.trans hl)
  exact h'.maximal hn' (himp n' (h.each n' hn))

end Extent

/-! ## The two loops -/

section Loops

variable {α : Type} [Arithmetic α]

/-- Whether a region admits the step from the `n`-th point of an orbit: its stages and the next
point are finite, and the next point lies in the region. -/
structure AdmittedIn (f : α → α → α) (region : Point α → Except Fault Bool) (seed : Point α)
    (h : α) (n : Nat) : Prop where
  stages : (Stages.compute f (orbit f seed h n).x (orbit f seed h n).y h).areFinite = true
  abscissa : Arithmetic.isFinite (orbit f seed h (n + 1)).x = true
  inside : region (orbit f seed h (n + 1)) = .ok true

/-- Whether the step from the `n`-th point of an orbit starts before `xEnd`. -/
def StartsBefore (f : α → α → α) (seed : Point α) (h xEnd : α) (n : Nat) : Prop :=
  Arithmetic.lt (orbit f seed h n).x xEnd = true

variable {f : α → α → α} {seed : Point α} {h : α}

lemma reverse_orbitUpTo_succ (n : Nat) :
    (orbitUpTo f seed h (n + 1)).reverse =
      orbit f seed h (n + 1) :: (orbitUpTo f seed h n).reverse := by
  rw [orbitUpTo_succ, List.reverse_append, List.reverse_singleton, List.singleton_append]

lemma insideFrom_of_admitted {region : Point α → Except Fault Bool} {n : Nat}
    (hadm : AdmittedIn f region seed h n) (remaining : Nat) :
    Run.insideFrom f region seed.x h (remaining + 1) (n + 1) (orbit f seed h n)
        (orbitUpTo f seed h n).reverse =
      Run.insideFrom f region seed.x h remaining (n + 2) (orbit f seed h (n + 1))
        (orbitUpTo f seed h (n + 1)).reverse := by
  obtain ⟨hstages, hx, hin⟩ := hadm
  simp only [orbit] at hx hin
  rw [reverse_orbitUpTo_succ, Run.insideFrom]
  simp only [hstages, hx, Bool.and_self, if_true, hin]
  rfl

lemma points_of_refused {region : Point α → Except Fault Bool} {n remaining : Nat} {r : Run α}
    (hno : ¬ AdmittedIn f region seed h n)
    (hr : Run.insideFrom f region seed.x h (remaining + 1) (n + 1) (orbit f seed h n)
      (orbitUpTo f seed h n).reverse = .ok r) : r.points = orbitUpTo f seed h n := by
  rw [Run.insideFrom] at hr
  dsimp only at hr
  split at hr
  · rename_i hfin
    rw [Bool.and_eq_true] at hfin
    split at hr
    · cases hr
    · rename_i hin
      exact absurd ⟨hfin.1, hfin.2, hin⟩ hno
    · cases hr
      exact List.reverse_reverse _
  · cases hr
    exact List.reverse_reverse _

lemma insideFrom_extent {region : Point α → Except Fault Bool} (remaining n : Nat) {r : Run α}
    (hr : Run.insideFrom f region seed.x h remaining (n + 1) (orbit f seed h n)
      (orbitUpTo f seed h n).reverse = .ok r) :
    ∃ m, Extent (fun k => AdmittedIn f region seed h (n + k)) remaining m ∧
      r.points = orbitUpTo f seed h (n + m) := by
  -- on the steps that remain, from whichever point of the orbit the run has come to
  induction remaining generalizing n with
  | zero =>
    rw [Run.insideFrom, Except.ok.injEq] at hr
    exact ⟨0, Extent.zero_limit, by rw [← hr, List.reverse_reverse, Nat.add_zero]⟩
  | succ remaining ih =>
    by_cases hadm : AdmittedIn f region seed h n
    · rw [insideFrom_of_admitted hadm] at hr
      obtain ⟨m, hm, hpoints⟩ := ih (n + 1) hr
      refine ⟨m + 1, Extent.cons hadm ?_, by rw [hpoints, Nat.add_assoc, Nat.add_comm 1]⟩
      simpa only [Nat.add_assoc, Nat.add_comm 1] using hm
    · exact ⟨0, Extent.zero_of_refused hadm, points_of_refused hadm hr⟩

/-- A run inside a region goes as far as the region admits, within its limit. -/
lemma inside_extent {region : Point α → Except Fault Bool} {limit : Nat} {r : Run α}
    (hr : Run.inside f region seed h limit = .ok r) :
    ∃ n, Extent (AdmittedIn f region seed h) limit n ∧ r.points = orbitUpTo f seed h n := by
  simpa only [Nat.zero_add] using insideFrom_extent limit 0 hr

lemma upToFrom_of_before {xEnd : α} {n : Nat} (hlt : StartsBefore f seed h xEnd n)
    (remaining : Nat) :
    Run.upToFrom f seed.x h xEnd (remaining + 1) (n + 1) (orbit f seed h n)
        (orbitUpTo f seed h n).reverse =
      Run.upToFrom f seed.x h xEnd remaining (n + 2) (orbit f seed h (n + 1))
        (orbitUpTo f seed h (n + 1)).reverse := by
  unfold StartsBefore at hlt
  rw [reverse_orbitUpTo_succ, Run.upToFrom, if_pos hlt]
  rfl

lemma upToFrom_extent (f : α → α → α) (seed : Point α) (h xEnd : α) (remaining n : Nat) :
    ∃ m, Extent (fun k => StartsBefore f seed h xEnd (n + k)) remaining m ∧
      (Run.upToFrom f seed.x h xEnd remaining (n + 1) (orbit f seed h n)
        (orbitUpTo f seed h n).reverse).points = orbitUpTo f seed h (n + m) := by
  induction remaining generalizing n with
  | zero =>
    exact ⟨0, Extent.zero_limit, by rw [Run.upToFrom, List.reverse_reverse, Nat.add_zero]⟩
  | succ remaining ih =>
    by_cases hlt : StartsBefore f seed h xEnd n
    · obtain ⟨m, hm, hpoints⟩ := ih (n + 1)
      rw [upToFrom_of_before hlt, hpoints]
      refine ⟨m + 1, Extent.cons hlt ?_, by rw [Nat.add_assoc, Nat.add_comm 1]⟩
      simpa only [Nat.add_assoc, Nat.add_comm 1] using hm
    · refine ⟨0, Extent.zero_of_refused hlt, ?_⟩
      unfold StartsBefore at hlt
      rw [Run.upToFrom, if_neg hlt, List.reverse_reverse, Nat.add_zero]

/-- A run up to `xEnd` goes as far as its steps start before `xEnd`, within its limit. -/
lemma upTo_extent (f : α → α → α) (seed : Point α) (h xEnd : α) (limit : Nat) :
    ∃ n, Extent (StartsBefore f seed h xEnd) limit n ∧
      (Run.upTo f seed xEnd h limit).points = orbitUpTo f seed h n := by
  obtain ⟨n, hn, hpoints⟩ := upToFrom_extent f seed h xEnd limit 0
  simp only [Nat.zero_add] at hn hpoints
  exact ⟨n, hn, hpoints⟩

/-- A region that can be tested everywhere has a run. -/
lemma insideFrom_ok {region : Point α → Except Fault Bool}
    (hregion : ∀ p, ∃ b, region p = .ok b) (x₀ : α) (remaining n : Nat) (here : Point α)
    (passed : List (Point α)) :
    ∃ r, Run.insideFrom f region x₀ h remaining n here passed = .ok r := by
  induction remaining generalizing n here passed with
  | zero => exact ⟨_, rfl⟩
  | succ remaining ih =>
    rw [Run.insideFrom]
    dsimp only
    split
    · obtain ⟨b, hb⟩ := hregion ⟨Run.abscissa x₀ h n, (Stages.compute f here.x here.y h).next⟩
      rw [hb]
      cases b with
      | true => exact ih _ _ _
      | false => exact ⟨_, rfl⟩
    · exact ⟨_, rfl⟩

end Loops

end DirectionField.Proofs
