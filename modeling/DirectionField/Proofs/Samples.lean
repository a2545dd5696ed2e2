import DirectionField.Grid
import DirectionField.Proofs.RunExtent

/-!
# Drawing samples

The samples of a function are the points of a grid at which it is finite, row by row. When only some
are drawn, they are the first of these, although the grid is not gone through to its end. Nothing is
asked of the arithmetic.
-/

namespace DirectionField.Proofs

section Grids

variable {α : Type} [Arithmetic α]

lemma samples_eq_filter (f : α → α → α) (xs ys : List α) :
    Grid.samples f xs ys =
      (xs.flatMap fun x => ys.map fun y => (⟨x, y, f x y⟩ : Sample α)).filter
        fun s => Arithmetic.isFinite s.slope := by
  have hrow : Grid.row f ys = fun x =>
      (ys.map fun y => (⟨x, y, f x y⟩ : Sample α)).filter
        fun s => Arithmetic.isFinite s.slope := by
    funext x
    rw [← List.filterMap_eq_filter, List.filterMap_map]
    rfl
  rw [Grid.samples, List.filter_flatMap, hrow]

lemma slope_of_mem_samples {f : α → α → α} {xs ys : List α} {p : Sample α}
    (hp : p ∈ Grid.samples f xs ys) :
    p.slope = f p.x p.y ∧ Arithmetic.isFinite p.slope = true := by
  rw [samples_eq_filter, List.mem_filter, List.mem_flatMap] at hp
  obtain ⟨⟨x, -, hrow⟩, hfinite⟩ := hp
  obtain ⟨y, -, rfl⟩ := List.mem_map.mp hrow
  exact ⟨rfl, hfinite⟩

lemma firstSamples_eq_take (f : α → α → α) (ys : List α) (k : ℕ) (xs : List α) :
    Grid.firstSamples f ys k xs = (Grid.samples f xs ys).take k := by
  fun_induction Grid.firstSamples f ys k xs with
  | case1 => simp
  | case2 k _ => simp [Grid.samples]
  | case3 k x xs hk row hle =>
    rw [Grid.samples, List.flatMap_cons, List.take_append_of_le_length hle]
  | case4 k x xs hk row hlt ih =>
    have hall : row.take k = row := List.take_of_length_le (by omega)
    rw [ih, Grid.samples, Grid.samples, List.flatMap_cons, List.take_append, hall]

end Grids

section Data

variable {α : Type} [Numeral α] {f : α → α → α} {bounds density : Datum α} {n : ℤ}
  {r : Grid.Rectangle α}

lemma rectangle_of_toNumber {a b c d : Datum α} (ha : a.toNumber = .ok r.xMin)
    (hb : b.toNumber = .ok r.xMax) (hc : c.toNumber = .ok r.yMin) (hd : d.toNumber = .ok r.yMax) :
    Grid.rectangle (.list [a, b, c, d]) = .ok r := by
  simp [Grid.rectangle, Grid.parts, ha, hb, hc, hd, Bind.bind, Except.bind, Pure.pure, Except.pure]

/-- Below a density of one the rectangle is not even looked at. -/
lemma sample_of_lt (hn : density.toWhole = .ok n) (hlt : n < 1) (f : α → α → α) (bounds : Datum α)
    (limit : Option ℕ) : Grid.sample f bounds density limit = .ok [] := by
  unfold Grid.sample
  split
  · rfl
  · simp [hn, hlt, Bind.bind, Except.bind, Pure.pure, Except.pure]

lemma sample_of_rectangle (hr : Grid.rectangle bounds = .ok r) (hn : density.toWhole = .ok n)
    (hpos : 1 ≤ n) (f : α → α → α) (limit : Option ℕ) :
    Grid.sample f bounds density limit =
      .ok (limit.elim id List.take (Grid.samples f (Grid.spaced r.xMin r.xMax n.toNat)
        (Grid.spaced r.yMin r.yMax n.toNat))) := by
  have hlt : ¬ n < 1 := by omega
  match limit with
  | some 0 => rfl
  | none | some (k + 1) =>
    simp [Grid.sample, hr, hn, hlt, firstSamples_eq_take, Bind.bind, Except.bind, Pure.pure,
      Except.pure]

/-- Whatever is drawn is the first part of the samples of some grid. -/
lemma sample_prefix {limit : Option ℕ} {samples : List (Sample α)}
    (hs : Grid.sample f bounds density limit = .ok samples) :
    ∃ xs ys, samples <+: Grid.samples f xs ys := by
  unfold Grid.sample at hs
  split at hs
  case isTrue =>
    cases hs
    exact ⟨[], [], List.nil_prefix⟩
  case isFalse =>
    obtain ⟨n, -, hs⟩ := bind_eq_ok.mp hs
    split at hs
    case isTrue =>
      cases hs
      exact ⟨[], [], List.nil_prefix⟩
    case isFalse =>
      obtain ⟨r, -, hs⟩ := bind_eq_ok.mp hs
      refine ⟨Grid.spaced r.xMin r.xMax n.toNat, Grid.spaced r.yMin r.yMax n.toNat, ?_⟩
      cases limit with
      | none =>
        cases hs
        exact List.prefix_rfl
      | some k =>
        cases hs
        rw [firstSamples_eq_take]
        exact List.take_prefix _ _

lemma slope_of_mem_sample {limit : Option ℕ} {samples : List (Sample α)} {p : Sample α}
    (hs : Grid.sample f bounds density limit = .ok samples) (hp : p ∈ samples) :
    p.slope = f p.x p.y ∧ Arithmetic.isFinite p.slope = true := by
  obtain ⟨xs, ys, hfirst⟩ := sample_prefix hs
  exact slope_of_mem_samples (hfirst.subset hp)

end Data

end DirectionField.Proofs
