import DirectionField.Proofs.ExtendedRational
import DirectionField.Proofs.FieldOperations
import DirectionField.Proofs.Samples

/-!
# The samples of a grid

In exact coordinates the samples of a field are those points of a square grid, row by row, at which
the raw slope is finite. The grid spans its rectangle with both ends of either axis; its points are
listed in the order of their abscissae, and of their ordinates where these are equal.
-/

namespace DirectionField.Proofs

/-! ## Grid points -/

/-- The `i`-th of `n` evenly spaced numbers from `a` to `b`; a single one lies halfway. -/
def gridCoordinate (a b : ℚ) (n i : ℕ) : ℚ :=
  if n = 1 then (a + b) / 2 else a + i * (b - a) / (n - 1)

/-- The points of a square grid over a rectangle, row by row with the abscissa outermost. -/
def gridPoints (r : Grid.Rectangle ℚ) (n : ℕ) : List (Point ℚ) :=
  (List.range n).flatMap fun i => (List.range n).map fun j =>
    ⟨gridCoordinate r.xMin r.xMax n i, gridCoordinate r.yMin r.yMax n j⟩

/-- The point lies in the rectangle, its border included. -/
def IsInRectangle (r : Grid.Rectangle ℚ) (p : Point ℚ) : Prop :=
  r.xMin ≤ p.x ∧ p.x ≤ r.xMax ∧ r.yMin ≤ p.y ∧ p.y ≤ r.yMax

/-- The first point comes before the second one in a row, or in an earlier row. -/
def IsBefore (p q : Point ℚ) : Prop := p.x < q.x ∨ p.x = q.x ∧ p.y < q.y

section Coordinates

variable {a b : ℚ} {n i j : ℕ}

lemma gridCoordinate_of_ne_one (hn : n ≠ 1) (a b : ℚ) (i : ℕ) :
    gridCoordinate a b n i = a + i * (b - a) / (n - 1) := if_neg hn

lemma gridCoordinate_zero (hn : n ≠ 1) : gridCoordinate a b n 0 = a := by
  rw [gridCoordinate_of_ne_one hn]
  simp

lemma gridCoordinate_last (hn : 2 ≤ n) : gridCoordinate a b n (n - 1) = b := by
  have hsteps : (n : ℚ) - 1 ≠ 0 := by
    have hcast : (2 : ℚ) ≤ n := by exact_mod_cast hn
    linarith
  rw [gridCoordinate_of_ne_one (by omega), Nat.cast_sub (by omega)]
  push_cast
  field_simp
  ring

lemma gridCoordinate_lt (hab : a < b) (hij : i < j) (hj : j < n) :
    gridCoordinate a b n i < gridCoordinate a b n j := by
  have hsteps : (0 : ℚ) < n - 1 := by
    have hcast : (2 : ℚ) ≤ n := by exact_mod_cast (by omega : 2 ≤ n)
    linarith
  have hwidth : 0 < b - a := sub_pos.mpr hab
  have hcast : (i : ℚ) < j := by exact_mod_cast hij
  rw [gridCoordinate_of_ne_one (by omega), gridCoordinate_of_ne_one (by omega)]
  gcongr

lemma gridCoordinate_mem (hab : a < b) (hi : i < n) :
    a ≤ gridCoordinate a b n i ∧ gridCoordinate a b n i ≤ b := by
  by_cases hn : n = 1
  · rw [gridCoordinate, if_pos hn]
    constructor <;> linarith
  · have hmono {k l : ℕ} (hkl : k ≤ l) (hl : l < n) :
        gridCoordinate a b n k ≤ gridCoordinate a b n l := by
      rcases hkl.eq_or_lt with rfl | hlt
      · exact le_rfl
      · exact (gridCoordinate_lt hab hlt hl).le
    constructor
    · calc a = gridCoordinate a b n 0 := (gridCoordinate_zero hn).symm
        _ ≤ gridCoordinate a b n i := hmono i.zero_le hi
    · calc gridCoordinate a b n i ≤ gridCoordinate a b n (n - 1) := hmono (by omega) (by omega)
        _ = b := gridCoordinate_last (by omega)

end Coordinates

section Points

variable {r : Grid.Rectangle ℚ} {n : ℕ} {p : Point ℚ}

lemma length_gridPoints : (gridPoints r n).length = n * n := by
  simp [gridPoints, List.length_flatMap]

lemma mem_gridPoints :
    p ∈ gridPoints r n ↔ ∃ i < n, ∃ j < n,
      ⟨gridCoordinate r.xMin r.xMax n i, gridCoordinate r.yMin r.yMax n j⟩ = p := by
  simp only [gridPoints, List.mem_flatMap, List.mem_map, List.mem_range]

lemma isInRectangle_of_mem (hx : r.xMin < r.xMax) (hy : r.yMin < r.yMax)
    (hp : p ∈ gridPoints r n) : IsInRectangle r p := by
  obtain ⟨i, hi, j, hj, rfl⟩ := mem_gridPoints.mp hp
  obtain ⟨hleft, hright⟩ := gridCoordinate_mem hx hi
  obtain ⟨hlow, hhigh⟩ := gridCoordinate_mem hy hj
  exact ⟨hleft, hright, hlow, hhigh⟩

lemma gridPoints_increasing (hx : r.xMin < r.xMax) (hy : r.yMin < r.yMax) :
    (gridPoints r n).Pairwise IsBefore := by
  unfold gridPoints
  rw [List.pairwise_flatMap]
  constructor
  · intro i _
    rw [List.pairwise_map]
    refine List.pairwise_lt_range.imp_of_mem ?_
    intro j k _ hk hjk
    exact .inr ⟨rfl, gridCoordinate_lt hy hjk (List.mem_range.mp hk)⟩
  · refine List.pairwise_lt_range.imp_of_mem ?_
    intro i j _ hj hij p hp q hq
    obtain ⟨k, -, rfl⟩ := List.mem_map.mp hp
    obtain ⟨l, -, rfl⟩ := List.mem_map.mp hq
    exact .inl (gridCoordinate_lt hx hij (List.mem_range.mp hj))

/-- The corners of the rectangle are grid points. -/
lemma corner_mem (hn : 2 ≤ n) {x y : ℚ} (hx : x ∈ [r.xMin, r.xMax]) (hy : y ∈ [r.yMin, r.yMax]) :
    ⟨x, y⟩ ∈ gridPoints r n := by
  have hends {a b z : ℚ} (hz : z ∈ [a, b]) : ∃ i < n, gridCoordinate a b n i = z := by
    rcases List.mem_pair.mp hz with rfl | rfl
    · exact ⟨0, by omega, gridCoordinate_zero (by omega)⟩
    · exact ⟨n - 1, by omega, gridCoordinate_last hn⟩
  obtain ⟨i, hi, rfl⟩ := hends hx
  obtain ⟨j, hj, rfl⟩ := hends hy
  exact mem_gridPoints.mpr ⟨i, hi, j, hj, rfl⟩

end Points

/-! ## Samples -/

section Exact

/-- The sample that a field has at a point. -/
def sampleAt (f : Extended → Extended → Extended) (p : Point ℚ) : Sample Extended :=
  ⟨.finite p.x, .finite p.y, f (.finite p.x) (.finite p.y)⟩

/-- Whether the slope at a point is finite. -/
def hasSlope (f : Extended → Extended → Extended) (p : Point ℚ) : Bool :=
  Arithmetic.isFinite (f (.finite p.x) (.finite p.y))

/-- The samples of a field on a grid: one for each point with a finite slope, in the order of the
points. So there are as many as points that are no gaps; over a proper rectangle all lie in it, and
each comes before all that follow it; and the corners are looked at. -/
structure SamplesGrid (f : Extended → Extended → Extended) (r : Grid.Rectangle ℚ) (n : ℕ)
    (samples : List (Sample Extended)) : Prop where
  eq_points : samples = ((gridPoints r n).filter (hasSlope f)).map (sampleAt f)
  length_add_gaps : samples.length + (gridPoints r n).countP (fun p => !hasSlope f p) = n * n
  inside : r.xMin < r.xMax → r.yMin < r.yMax →
    ∀ s ∈ samples, ∃ p, sampleAt f p = s ∧ IsInRectangle r p
  increasing : r.xMin < r.xMax → r.yMin < r.yMax → samples.Pairwise fun s t =>
    Extended.lt s.x t.x = true ∨ s.x = t.x ∧ Extended.lt s.y t.y = true
  corners : 2 ≤ n → ∀ x ∈ [r.xMin, r.xMax], ∀ y ∈ [r.yMin, r.yMax],
    ⟨x, y⟩ ∈ gridPoints r n ∧ (sampleAt f ⟨x, y⟩ ∈ samples ↔ hasSlope f ⟨x, y⟩ = true)

variable {f : Extended → Extended → Extended} {r : Grid.Rectangle ℚ}

/-- In exact arithmetic both ways to take the steps lead equally far. -/
lemma advance_eq {n : ℕ} (hn : n ≠ 0) (width : ℚ) (i : ℕ) :
    Grid.advance (.finite width : Extended) n i = .finite (i * width / n) := by
  have hne : (n : ℚ) ≠ 0 := Nat.cast_ne_zero.mpr hn
  unfold Grid.advance
  simp only [Extended.ofInt_eq, Int.cast_natCast, Extended.finite_div hne]
  split
  · rw [Extended.finite_mul, div_mul_eq_mul_div]
  · rw [Extended.finite_mul, mul_div_assoc]

lemma spaced_eq (a b : ℚ) (n : ℕ) :
    Grid.spaced (.finite a) (.finite b) n =
      (List.range n).map fun i => Extended.finite (gridCoordinate a b n i) := by
  unfold Grid.spaced
  split
  case isTrue hn =>
    subst hn
    have hhalf : (Extended.finite (a + b) / .finite 2 : Extended) = .finite ((a + b) / 2) :=
      Extended.finite_div two_ne_zero
    simp [gridCoordinate, hhalf]
  case isFalse hn =>
    refine List.map_congr_left fun i hi => ?_
    have hin := List.mem_range.mp hi
    split
    case isTrue hlast =>
      have hi' : i = n - 1 := by omega
      rw [hi', gridCoordinate_last (by omega)]
    case isFalse =>
      have hsteps : ((n - 1 : ℕ) : ℚ) = n - 1 := by rw [Nat.cast_sub (by omega), Nat.cast_one]
      rw [gridCoordinate_of_ne_one hn, Extended.finite_sub, advance_eq (by omega),
        Extended.finite_add, hsteps]

lemma sampleAt_injective : Function.Injective (sampleAt f) := by
  rintro ⟨x, y⟩ ⟨x', y'⟩ h
  simp only [sampleAt, Sample.mk.injEq, Extended.finite.injEq] at h
  rw [h.1, h.2.1]

lemma samples_eq_points (f : Extended → Extended → Extended) (r : Grid.Rectangle ℚ) (n : ℕ) :
    Grid.samples f (Grid.spaced (.finite r.xMin) (.finite r.xMax) n)
        (Grid.spaced (.finite r.yMin) (.finite r.yMax) n) =
      ((gridPoints r n).filter (hasSlope f)).map (sampleAt f) := by
  rw [samples_eq_filter, spaced_eq, spaced_eq]
  have hall : (((List.range n).map fun i =>
        Extended.finite (gridCoordinate r.xMin r.xMax n i)).flatMap fun x =>
      ((List.range n).map fun j => Extended.finite (gridCoordinate r.yMin r.yMax n j)).map
        fun y => (⟨x, y, f x y⟩ : Sample Extended)) = (gridPoints r n).map (sampleAt f) := by
    simp only [gridPoints, List.map_flatMap, List.flatMap_map, List.map_map]
    rfl
  rw [hall, List.filter_map]
  rfl

lemma samplesGrid_points (f : Extended → Extended → Extended) (r : Grid.Rectangle ℚ) (n : ℕ) :
    SamplesGrid f r n (((gridPoints r n).filter (hasSlope f)).map (sampleAt f)) := by
  constructor
  case eq_points => rfl
  case length_add_gaps =>
    rw [List.length_map, ← List.countP_eq_length_filter, ← length_gridPoints (r := r)]
    have hsplit := List.length_eq_countP_add_countP (hasSlope f) (l := gridPoints r n)
    simp only [decide_not, Bool.decide_eq_true] at hsplit
    exact hsplit.symm
  case inside =>
    intro hx hy s hs
    obtain ⟨p, hp, rfl⟩ := List.mem_map.mp hs
    exact ⟨p, rfl, isInRectangle_of_mem hx hy (List.mem_of_mem_filter hp)⟩
  case increasing =>
    intro hx hy
    rw [List.pairwise_map]
    refine ((gridPoints_increasing hx hy).filter _).imp ?_
    rintro p q (hlt | ⟨heq, hlt⟩)
    · exact .inl (decide_eq_true hlt)
    · exact .inr ⟨congrArg Extended.finite heq, decide_eq_true hlt⟩
  case corners =>
    intro hn x hx y hy
    have hmem := corner_mem hn hx hy
    refine ⟨hmem, ?_⟩
    rw [List.mem_map_of_injective sampleAt_injective, List.mem_filter]
    exact and_iff_right hmem

section Data

variable {a b c d density : Datum Extended} {n : ℤ} (ha : a.toNumber = .ok (.finite r.xMin))
  (hb : b.toNumber = .ok (.finite r.xMax)) (hc : c.toNumber = .ok (.finite r.yMin))
  (hd : d.toNumber = .ok (.finite r.yMax)) (hn : density.toWhole = .ok n)

include ha hb hc hd hn

/-- The samples over a rectangle in numbers, all of them or those that are drawn first. -/
lemma sample_of_numbers (limit : Option ℕ) :
    Grid.sample f (.list [a, b, c, d]) density limit =
      .ok (limit.elim id List.take
        (((gridPoints r n.toNat).filter (hasSlope f)).map (sampleAt f))) := by
  have hr : Grid.rectangle (.list [a, b, c, d]) =
      .ok ⟨.finite r.xMin, .finite r.xMax, .finite r.yMin, .finite r.yMax⟩ :=
    rectangle_of_toNumber ha hb hc hd
  by_cases hlt : n < 1
  · have hzero : n.toNat = 0 := by omega
    rw [sample_of_lt hn hlt, hzero]
    cases limit <;> simp [gridPoints]
  · rw [sample_of_rectangle hr hn (by omega), samples_eq_points]

end Data

/-- The samples of a field over a rectangle in numbers, of the field itself or of a session whose
equation has it as its raw slope, are those of the grid: nothing at a density below one, and a part
from the front when only some of them are drawn. -/
theorem samples_span_grid (f : Extended → Extended → Extended) {density : Datum Extended} {n : ℤ}
    (hn : density.toWhole = .ok n) :
    (n < 1 → ∀ bounds limit, Grid.sample f bounds density limit = .ok []) ∧
    ∀ (a b c d : Datum Extended) (r : Grid.Rectangle ℚ), a.toNumber = .ok (.finite r.xMin) →
      b.toNumber = .ok (.finite r.xMax) → c.toNumber = .ok (.finite r.yMin) →
      d.toNumber = .ok (.finite r.yMax) →
      ∃ samples, SamplesGrid f r n.toNat samples ∧
        Grid.sample f (.list [a, b, c, d]) density none = .ok samples ∧
        (∀ k, Grid.sample f (.list [a, b, c, d]) density (some k) = .ok (samples.take k)) ∧
        ∀ (ε : Type) (C : Calculus ε Extended) (s : Field Extended) (g : Slope Extended),
          (s.ensureCompiled C).result = .ok g → g.evaluate = f →
          (s.sample C (.list [a, b, c, d]) density).result = .ok samples ∧
          (s.settings.bounds = [a, b, c, d] →
            (s.sample C .missing density).result = .ok samples) := by
  refine ⟨fun hlt => sample_of_lt hn hlt f, ?_⟩
  intro a b c d r ha hb hc hd
  have hsample := sample_of_numbers (f := f) ha hb hc hd hn
  refine ⟨_, samplesGrid_points f r n.toNat, hsample none, fun k => hsample (some k), ?_⟩
  rintro ε C s g hg rfl
  constructor
  · rw [result_sample hg]
    exact hsample none
  · intro hbounds
    rw [result_sample hg, hbounds]
    exact hsample none

/-- Nine points around the origin: the three with the abscissa zero are gaps. -/
theorem samples_span_grid_reciprocal :
    (Datum.whole 3 : Datum Extended).toWhole = .ok 3 ∧
    ∃ samples, SamplesGrid reciprocalSlope.evaluate ⟨-1, 1, -1, 1⟩ 3 samples ∧
      Grid.sample reciprocalSlope.evaluate
        (.list [.whole (-1), .whole 1, .whole (-1), .whole 1]) (.whole 3) none = .ok samples ∧
      (reciprocalField.sample reciprocalCalculus .missing (.whole 3)).result = .ok samples ∧
      samples.length = 6 ∧ samples.head? = some ⟨.finite (-1), .finite (-1), .finite (-1)⟩ := by
  have hn : (Datum.whole 3 : Datum Extended).toWhole = .ok 3 := rfl
  obtain ⟨samples, hgrid, hsample, -, hsession⟩ :=
    (samples_span_grid reciprocalSlope.evaluate hn).2 (.whole (-1)) (.whole 1) (.whole (-1))
      (.whole 1) ⟨-1, 1, -1, 1⟩ rfl rfl rfl rfl
  obtain ⟨-, hfield⟩ := hsession Unit reciprocalCalculus reciprocalField reciprocalSlope rfl rfl
  refine ⟨hn, samples, hgrid, hsample, hfield rfl, ?_, ?_⟩
  · have hgaps : (gridPoints ⟨-1, 1, -1, 1⟩ 3).countP
        (fun p => !hasSlope reciprocalSlope.evaluate p) = 3 := by decide +kernel
    have hcount : samples.length +
        (gridPoints ⟨-1, 1, -1, 1⟩ 3).countP (fun p => !hasSlope reciprocalSlope.evaluate p) = 9 :=
      hgrid.length_add_gaps
    omega
  · rw [hgrid.eq_points]
    decide +kernel

end Exact

end DirectionField.Proofs
