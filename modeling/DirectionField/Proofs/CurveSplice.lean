import DirectionField.Proofs.FieldOperations
import DirectionField.Proofs.Rational

/-!
# The points of a curve

In exact arithmetic the two runs of a curve are the halves of one orbit that goes through the seed
in both directions. The points of the curve are this orbit between two signed numbers of steps, from
left to right.
-/

namespace DirectionField.Proofs

/-! ## Orbits in both directions -/

section SignedOrbit

variable (f : ℚ → ℚ → ℚ) (seed : Point ℚ) (h : ℚ)

lemma orbit_x (n : Nat) : (orbit f seed h n).x = seed.x + n * h := by
  cases n with
  | zero => simp [orbit]
  | succ n => simp [orbit, Run.abscissa]

lemma orbit_x_succ (n : ℕ) : (orbit f seed h (n + 1)).x = (orbit f seed h n).x + h := by
  rw [orbit_x, orbit_x]
  push_cast
  ring

/-- The point after a signed number of steps of width `h`: to the right or to the left. -/
def signedOrbit : ℤ → Point ℚ
  | .ofNat n => orbit f seed h n
  | .negSucc n => orbit f seed (-h) (n + 1)

lemma signedOrbit_x (k : ℤ) : (signedOrbit f seed h k).x = seed.x + k * h := by
  cases k with
  | ofNat n => simp [signedOrbit, orbit_x]
  | negSucc n =>
    simp only [signedOrbit, orbit_x]
    push_cast
    ring

lemma signedOrbit_natCast (n : Nat) : signedOrbit f seed h n = orbit f seed h n := rfl

lemma signedOrbit_neg (n : Nat) : signedOrbit f seed h (-n) = orbit f seed (-h) n := by
  cases n with
  | zero => rfl
  | succ n => rfl

/-- Steps of the opposite width, counted the other way. -/
lemma signedOrbit_neg_neg (k : ℤ) : signedOrbit f seed (-h) (-k) = signedOrbit f seed h k := by
  obtain ⟨n, rfl | rfl⟩ := k.eq_nat_or_neg
  · rw [signedOrbit_neg, neg_neg, signedOrbit_natCast]
  · rw [neg_neg, signedOrbit_natCast, signedOrbit_neg]

lemma take_one_orbitUpTo (n : ℕ) : (orbitUpTo f seed h n).take 1 = [seed] := by
  unfold orbitUpTo
  rw [List.range_succ_eq_map]
  rfl

/-- The points of an orbit from `m` steps to the left to `n` steps to the right of its seed. -/
def orbitBetween (m n : ℕ) : List (Point ℚ) :=
  (List.range (m + n + 1)).map fun i : ℕ => signedOrbit f seed h (i - m)

lemma reverse_orbitBetween (m n : ℕ) :
    (orbitBetween f seed h m n).reverse = orbitBetween f seed (-h) n m := by
  unfold orbitBetween
  apply List.ext_getElem
  · simp only [List.length_reverse, List.length_map, List.length_range]
    omega
  · intro i hi hi'
    simp only [List.length_reverse, List.length_map, List.length_range] at hi
    have hk : (i : ℤ) - n = -(((m + n + 1 - 1 - i : ℕ) : ℤ) - m) := by omega
    simp only [List.getElem_reverse, List.getElem_map, List.getElem_range, List.length_map,
      List.length_range]
    rw [hk, signedOrbit_neg_neg]

/-- A backward run turned round, without its seed, followed by a forward run. -/
lemma splice_points (m n : ℕ) :
    ((orbitUpTo f seed (-h) m).drop 1).reverse ++ orbitUpTo f seed h n =
      orbitBetween f seed h m n := by
  have hlength : ((orbitUpTo f seed (-h) m).drop 1).reverse.length = m := by
    rw [List.length_reverse, List.length_drop, length_orbitUpTo, Nat.add_sub_cancel]
  unfold orbitBetween
  apply List.ext_getElem
  · rw [List.length_append, hlength, length_orbitUpTo, List.length_map, List.length_range]
    omega
  · intro i hi hi'
    rw [List.getElem_map, List.getElem_range]
    by_cases him : i < m
    · have hk : (i : ℤ) - m = -((m - i : ℕ) : ℤ) := by omega
      have hj : 1 + (m + 1 - 1 - 1 - i) = m - i := by omega
      rw [List.getElem_append_left (by omega), List.getElem_reverse, List.getElem_drop, hk,
        signedOrbit_neg]
      simp only [orbitUpTo, List.getElem_map, List.getElem_range, List.length_drop,
        List.length_map, List.length_range, hj]
    · have hk : (i : ℤ) - m = ((i - m : ℕ) : ℤ) := by omega
      rw [List.getElem_append_right (by omega), hk, signedOrbit_natCast]
      simp only [hlength]
      simp only [orbitUpTo, List.getElem_map, List.getElem_range]

variable {f seed h}

lemma length_orbitBetween (m n : ℕ) : (orbitBetween f seed h m n).length = m + n + 1 := by
  simp [orbitBetween]

lemma getElem?_orbitBetween {m n i : ℕ} {p : Point ℚ} :
    (orbitBetween f seed h m n)[i]? = some p ↔
      i < m + n + 1 ∧ signedOrbit f seed h (i - m) = p := by
  unfold orbitBetween
  rw [List.getElem?_map, Option.map_eq_some_iff]
  constructor
  · rintro ⟨j, hj, hp⟩
    obtain ⟨hi, rfl⟩ := List.getElem?_eq_some_iff.mp hj
    rw [List.getElem_range] at hp
    exact ⟨by simpa using hi, hp⟩
  · rintro ⟨hi, hp⟩
    exact ⟨i, List.getElem?_range hi, hp⟩

lemma mem_orbitBetween {m n : ℕ} {p : Point ℚ} :
    p ∈ orbitBetween f seed h m n ↔ ∃ k : ℤ, -m ≤ k ∧ k ≤ n ∧ signedOrbit f seed h k = p := by
  rw [List.mem_iff_getElem?]
  constructor
  · rintro ⟨i, hi⟩
    obtain ⟨hlt, rfl⟩ := getElem?_orbitBetween.mp hi
    exact ⟨i - m, by omega, by omega, rfl⟩
  · rintro ⟨k, hmk, hkn, rfl⟩
    have hi : (((k + m).toNat : ℕ) : ℤ) - m = k := by omega
    exact ⟨(k + m).toNat, getElem?_orbitBetween.mpr ⟨by omega, by rw [hi]⟩⟩

lemma signedOrbit_x_lt (hpos : 0 < h) {j k : ℤ} :
    (signedOrbit f seed h j).x < (signedOrbit f seed h k).x ↔ j < k := by
  rw [signedOrbit_x, signedOrbit_x, add_lt_add_iff_left, mul_lt_mul_iff_left₀ hpos, Int.cast_lt]

lemma signedOrbit_eq_seed_iff (hpos : 0 < h) {k : ℤ} : signedOrbit f seed h k = seed ↔ k = 0 := by
  constructor
  · intro hk
    have hx := congrArg Point.x hk
    rw [signedOrbit_x, add_eq_left, mul_eq_zero] at hx
    exact Int.cast_eq_zero.mp (hx.resolve_right hpos.ne')
  · rintro rfl
    rfl

lemma orbitBetween_increasing (hpos : 0 < h) (m n : ℕ) :
    (orbitBetween f seed h m n).Pairwise fun p q => p.x < q.x := by
  unfold orbitBetween
  rw [List.pairwise_map]
  refine List.pairwise_lt_range.imp ?_
  intro i j hij
  rw [signedOrbit_x_lt hpos]
  omega

/-- Points of an evenly spaced orbit between two abscissae: at most one more than there are steps in
the distance of these. -/
lemma length_orbitBetween_le_floor (hpos : 0 < h) {m n : ℕ} {a b : ℚ}
    (hleft : a ≤ (signedOrbit f seed h (-m)).x) (hright : (signedOrbit f seed h n).x ≤ b) :
    ((orbitBetween f seed h m n).length : ℤ) ≤ ⌊(b - a) / h⌋ + 1 := by
  have hsteps : ((m + n : ℕ) : ℤ) ≤ ⌊(b - a) / h⌋ := by
    rw [Int.le_floor, le_div_iff₀ hpos]
    rw [signedOrbit_x] at hleft hright
    push_cast at hleft hright ⊢
    linarith
  rw [length_orbitBetween]
  push_cast at hsteps ⊢
  linarith

end SignedOrbit

/-! ## Curves -/

/-- The curve of two runs from a seed, in settings given as numbers: where its points lie, where its
seed is found, what its two halves are, and how many points there may be. -/
structure IsSplice (e : ExactSettings) (seed : Point ℚ) (forward backward : Run ℚ)
    (c : Curve ℚ) : Prop where
  seed_eq : c.seed = seed
  abscissa : ∀ (i : ℕ) (p : Point ℚ), c.points[i]? = some p →
    p.x = seed.x + ((i : ℚ) - c.seedIndex) * e.step
  increasing : c.points.Pairwise fun p q => p.x < q.x
  seed_iff : ∀ i : ℕ, c.points[i]? = some seed ↔ i = c.seedIndex
  right : c.points.drop c.seedIndex = forward.points
  left : (c.points.take (c.seedIndex + 1)).reverse = backward.points
  inside : ∀ p ∈ c.points, p ≠ seed → e.Contains p
  inside_of_seed : e.Contains seed → ∀ p ∈ c.points, e.Contains p
  size_le : (c.size : ℤ) ≤ 2 * e.maxSteps + 1
  size_le_of_seed : e.Contains seed → (c.size : ℤ) ≤ ⌊(e.xMax - e.xMin) / e.step⌋ + 1

section Curves

variable {f : ℚ → ℚ → ℚ} {e : ExactSettings} {s : Settings ℚ} {x₀ y₀ : Datum ℚ} {seed : Point ℚ}

lemma signedWidth_of_pos {h : ℚ} (hpos : 0 < h) (d : ℤ) : signedWidth d h = d * h := by
  simp [signedWidth, abs_of_pos hpos]

lemma ExactSettings.Describes.admittedIn_iff (he : e.Describes s) {h : ℚ} (n : ℕ) :
    AdmittedIn f (regionOf s) seed h n ↔ e.Contains (orbit f seed h (n + 1)) :=
  ⟨fun hadm => (he.regionOf_iff _).mp hadm.inside,
    fun hin => ⟨rfl, rfl, (he.regionOf_iff _).mpr hin⟩⟩

/-- How far a side of a curve goes, to the right or to the left: as long as the next point lies in
the rectangle. -/
lemma side_extent (he : e.Describes s) (hpos : 0 < e.step) (hx : x₀.toNumber = .ok seed.x)
    (hy : y₀.toNumber = .ok seed.y) {d : ℤ} (hd : d = 1 ∨ d = -1) {r : Run ℚ}
    (hr : Run.box f x₀ y₀ s.step s (.whole d) .missing = .ok r) :
    ∃ n, r.points = orbitUpTo f seed (d * e.step) n ∧
      Extent (fun k => e.Contains (orbit f seed (d * e.step) (k + 1))) e.maxSteps.toNat n := by
  obtain ⟨n, hpoints, hn⟩ :=
    box_extent_of_numbers hd hx hy he.step.toNumber he.boxLimit_missing hr
  rw [signedWidth_of_pos hpos] at hn hpoints
  exact ⟨n, hpoints, hn.congr he.admittedIn_iff⟩

/-- The side of a curve to the right or to the left, as a part of an orbit in the rectangle. -/
lemma side_points (he : e.Describes s) (hpos : 0 < e.step) (hx : x₀.toNumber = .ok seed.x)
    (hy : y₀.toNumber = .ok seed.y) {d : ℤ} (hd : d = 1 ∨ d = -1) {r : Run ℚ}
    (hr : Run.box f x₀ y₀ s.step s (.whole d) .missing = .ok r) :
    ∃ n, r.points = orbitUpTo f seed (d * e.step) n ∧ n ≤ e.maxSteps.toNat ∧
      ∀ k, 0 < k → k ≤ n → e.Contains (orbit f seed (d * e.step) k) := by
  obtain ⟨n, hpoints, hn⟩ := side_extent he hpos hx hy hd hr
  refine ⟨n, hpoints, hn.within, ?_⟩
  intro k hk hkn
  obtain ⟨j, rfl⟩ := Nat.exists_eq_succ_of_ne_zero hk.ne'
  exact hn.each j (by omega)

lemma points_splice {backward forward : Run ℚ} {m n : ℕ}
    (hbackward : backward.points = orbitUpTo f seed (-e.step) m)
    (hforward : forward.points = orbitUpTo f seed e.step n) (id colorIndex : ℤ) :
    (Curve.splice id colorIndex seed backward forward).points =
      orbitBetween f seed e.step m n := by
  rw [← splice_points, ← hbackward, ← hforward]
  rfl

/-- A curve is an orbit in both directions, `m` steps to the left and `n` to the right of the seed:
as many as the limit admits and as lead to points in the rectangle. -/
structure FollowsOrbit (e : ExactSettings) (f : ℚ → ℚ → ℚ) (seed : Point ℚ) (c : Curve ℚ)
    (m n : ℕ) : Prop where
  seed_eq : c.seed = seed
  seedIndex_eq : c.seedIndex = m
  points_eq : c.points = orbitBetween f seed e.step m n
  left : Extent (fun k => e.Contains (orbit f seed (-e.step) (k + 1))) e.maxSteps.toNat m
  right : Extent (fun k => e.Contains (orbit f seed e.step (k + 1))) e.maxSteps.toNat n

/-- In settings that pass their checks every seed in numbers has its curve. -/
lemma addCurve_followsOrbit {ε : Type} (C : Calculus ε ℚ) (s : Field ℚ) {g : Slope ℚ}
    (hg : (s.ensureCompiled C).result = .ok g) (he : e.Describes s.settings)
    (hvalid : s.settings.checked = .ok s.settings) (hx : x₀.toNumber = .ok seed.x)
    (hy : y₀.toNumber = .ok seed.y) :
    ∃ c m n, (s.addCurve C x₀ y₀).result = .ok c ∧
      (s.addCurve C x₀ y₀).session.curves = s.curves ++ [c] ∧
      FollowsOrbit e g.value seed c m n := by
  obtain ⟨-, -, hpos, -⟩ := he.checked_iff.mp hvalid
  obtain ⟨forward, hforward⟩ := box_returns (f := g.value) he.hasBorders (.inl rfl) hx hy
    he.step.toNumber he.boxLimit_missing
  obtain ⟨backward, hbackward⟩ := box_returns (f := g.value) he.hasBorders (.inr rfl) hx hy
    he.step.toNumber he.boxLimit_missing
  obtain ⟨n, hright, hn⟩ := side_extent he hpos hx hy (.inl rfl) hforward
  obtain ⟨m, hleft, hm⟩ := side_extent he hpos hx hy (.inr rfl) hbackward
  rw [Int.cast_one, one_mul] at hright hn
  rw [Int.cast_neg, Int.cast_one, neg_one_mul] at hleft hm
  obtain ⟨hresult, hsession⟩ := addCurve_of_runs hg hforward hbackward hx hy
  refine ⟨_, m, n, hresult, ?_, rfl, ?_, points_splice hleft hright _ _, hm, hn⟩
  · rw [hsession, ← (ensureCompiled_sameStore C s).curves]
    rfl
  · simp [Field.store, Curve.splice, Curve.leftOf, hleft, length_orbitUpTo]

lemma isSplice_of_orbits {backward forward : Run ℚ} {m n : ℕ} (hpos : 0 < e.step)
    (hlimit : 1 ≤ e.maxSteps)
    (hbackward : backward.points = orbitUpTo f seed (-e.step) m)
    (hforward : forward.points = orbitUpTo f seed e.step n)
    (hm : m ≤ e.maxSteps.toNat) (hn : n ≤ e.maxSteps.toNat)
    (hleft : ∀ k, 0 < k → k ≤ m → e.Contains (orbit f seed (-e.step) k))
    (hright : ∀ k, 0 < k → k ≤ n → e.Contains (orbit f seed e.step k)) (id colorIndex : ℤ) :
    IsSplice e seed forward backward (Curve.splice id colorIndex seed backward forward) := by
  set c := Curve.splice id colorIndex seed backward forward with hc
  have hindex : c.seedIndex = m := by
    simp [hc, Curve.splice, Curve.leftOf, hbackward, length_orbitUpTo]
  have hpoints : c.points = orbitBetween f seed e.step m n :=
    points_splice hbackward hforward id colorIndex
  have hsize : c.size = m + n + 1 := by
    rw [Curve.size, hpoints, length_orbitBetween]
  -- every point but the seed is that of a step of one of the two runs
  have hstep (k : ℤ) (hmk : -m ≤ k) (hkn : k ≤ n) (hk : k ≠ 0) :
      e.Contains (signedOrbit f seed e.step k) := by
    obtain ⟨j, rfl | rfl⟩ := k.eq_nat_or_neg
    · rw [signedOrbit_natCast]
      exact hright j (by omega) (by omega)
    · rw [signedOrbit_neg]
      exact hleft j (by omega) (by omega)
  have hmem (p : Point ℚ) (hp : p ∈ c.points) :
      ∃ k : ℤ, -m ≤ k ∧ k ≤ n ∧ signedOrbit f seed e.step k = p := by
    rw [hpoints] at hp
    exact mem_orbitBetween.mp hp
  have hinside (p : Point ℚ) (hp : p ∈ c.points) (hne : p ≠ seed) : e.Contains p := by
    obtain ⟨k, hmk, hkn, rfl⟩ := hmem p hp
    exact hstep k hmk hkn (mt (signedOrbit_eq_seed_iff hpos).mpr hne)
  constructor
  case seed_eq => rfl
  case abscissa =>
    intro i p hp
    rw [hpoints, getElem?_orbitBetween] at hp
    rw [← hp.2, signedOrbit_x, hindex]
    push_cast
    rfl
  case increasing =>
    rw [hpoints]
    exact orbitBetween_increasing hpos m n
  case seed_iff =>
    intro i
    rw [hpoints, getElem?_orbitBetween, signedOrbit_eq_seed_iff hpos, hindex]
    omega
  case right => exact drop_splice id colorIndex seed backward forward
  case left =>
    apply reverse_take_splice
    · rw [hbackward, take_one_orbitUpTo]
    · rw [hforward, take_one_orbitUpTo]
  case inside => exact hinside
  case inside_of_seed =>
    intro hseed p hp
    by_cases hne : p = seed
    · exact hne ▸ hseed
    · exact hinside p hp hne
  case size_le =>
    rw [hsize]
    omega
  case size_le_of_seed =>
    intro hseed
    have hends (k : ℤ) (hmk : -m ≤ k) (hkn : k ≤ n) :
        e.Contains (signedOrbit f seed e.step k) := by
      by_cases hk : k = 0
      · rw [(signedOrbit_eq_seed_iff hpos).mpr hk]
        exact hseed
      · exact hstep k hmk hkn hk
    rw [Curve.size, hpoints]
    exact length_orbitBetween_le_floor hpos (hends (-m) le_rfl (by omega)).1
      (hends n (by omega) le_rfl).2.1

/-- In exact arithmetic and settings that pass their checks, a session whose equation has a slope
function adds a curve through every seed. The curve is the last one in the session afterwards, and
it is spliced from the box run to the right and the box run to the left. -/
theorem addCurve_spliced {ε : Type} (C : Calculus ε ℚ) (s : Field ℚ) {g : Slope ℚ}
    (hg : (s.ensureCompiled C).result = .ok g) (he : e.Describes s.settings)
    (hvalid : s.settings.checked = .ok s.settings) (hx : x₀.toNumber = .ok seed.x)
    (hy : y₀.toNumber = .ok seed.y) :
    ∃ c forward backward, (s.addCurve C x₀ y₀).result = .ok c ∧
      (s.addCurve C x₀ y₀).session.curves = s.curves ++ [c] ∧
      Run.box g.value x₀ y₀ s.settings.step s.settings (.whole 1) .missing = .ok forward ∧
      Run.box g.value x₀ y₀ s.settings.step s.settings (.whole (-1)) .missing = .ok backward ∧
      IsSplice e seed forward backward c := by
  obtain ⟨-, -, hpos, hlimit⟩ := he.checked_iff.mp hvalid
  obtain ⟨forward, hforward⟩ := box_returns (f := g.value) he.hasBorders (.inl rfl) hx hy
    he.step.toNumber he.boxLimit_missing
  obtain ⟨backward, hbackward⟩ := box_returns (f := g.value) he.hasBorders (.inr rfl) hx hy
    he.step.toNumber he.boxLimit_missing
  obtain ⟨n, hn, hnmax, hright⟩ := side_points he hpos hx hy (.inl rfl) hforward
  obtain ⟨m, hm, hmmax, hleft⟩ := side_points he hpos hx hy (.inr rfl) hbackward
  rw [Int.cast_one, one_mul] at hn hright
  rw [Int.cast_neg, Int.cast_one, neg_one_mul] at hm hleft
  obtain ⟨hresult, hsession⟩ := addCurve_of_runs hg hforward hbackward hx hy
  refine ⟨_, forward, backward, hresult, ?_, hforward, hbackward, ?_⟩
  · rw [hsession, ← (ensureCompiled_sameStore C s).curves]
    rfl
  · exact isSplice_of_orbits hpos hlimit hm hn hmmax hnmax hleft hright _ _

/-- The curve through `(0, 1)` in the field of decay. -/
theorem addCurve_spliced_decay :
    decaySettings.checked = .ok decaySettings ∧
    ∃ c forward backward,
      (decayField.addCurve decayCalculus (.whole 0) (.whole 1)).result = .ok c ∧
      (decayField.addCurve decayCalculus (.whole 0) (.whole 1)).session.curves =
        decayField.curves ++ [c] ∧
      Run.box decaySlope.value (.whole 0) (.whole 1) decaySettings.step decaySettings (.whole 1)
        .missing = .ok forward ∧
      Run.box decaySlope.value (.whole 0) (.whole 1) decaySettings.step decaySettings (.whole (-1))
        .missing = .ok backward ∧
      IsSplice decayExact ⟨0, 1⟩ forward backward c := by
  have hvalid : decaySettings.checked = .ok decaySettings :=
    decayExact_describes.checked_iff.mpr (by norm_num [decayExact])
  exact ⟨hvalid, addCurve_spliced decayCalculus decayField rfl decayExact_describes hvalid rfl rfl⟩

end Curves

end DirectionField.Proofs
