import Mathlib
import DirectionField.Arrows

/-!
# Arrows in the plane

Each sample has three places of its own in the line of all arrows: the two ends of its segment and a
gap. Over the real numbers, with functions for angles that meet three laws, the segment is centred
on the sample, has the length that is asked for and rises with the slope of the sample.
-/

namespace DirectionField.Proofs

open Trigonometry (atan cos sin)

/-! ## Places in the line -/

section Places

variable {β γ : Type}

/-- A list of parts of one length: the entries of each part stand behind those of the earlier
parts. -/
lemma getElem?_flatMap_of_length {f : β → List γ} {w : ℕ} (hf : ∀ b, (f b).length = w)
    (l : List β) (k : ℕ) {j : ℕ} (hj : j < w) :
    (l.flatMap f)[w * k + j]? = l[k]?.bind fun b => (f b)[j]? := by
  induction l generalizing k with
  | nil => simp
  | cons b l ih =>
    rw [List.flatMap_cons]
    cases k with
    | zero =>
      rw [Nat.mul_zero, Nat.zero_add, List.getElem?_append_left (by rw [hf]; exact hj)]
      rfl
    | succ k =>
      have hplace : w * (k + 1) + j = (f b).length + (w * k + j) := by
        rw [hf]
        ring
      rw [hplace, List.getElem?_append_right (Nat.le_add_right _ _), Nat.add_sub_cancel_left, ih]
      rfl

lemma length_flatMap_of_length {f : β → List γ} {w : ℕ} (hf : ∀ b, (f b).length = w)
    (l : List β) : (l.flatMap f).length = w * l.length := by
  simp [List.length_flatMap, hf, Nat.mul_comm]

end Places

section Segments

variable {α : Type}

/-- The two ends of the `k`-th segment of the line. -/
structure HasSegment (line : Polyline α) (k : ℕ) (left right : Point α) : Prop where
  left_x : line.xs[3 * k]? = some (some left.x)
  left_y : line.ys[3 * k]? = some (some left.y)
  right_x : line.xs[3 * k + 1]? = some (some right.x)
  right_y : line.ys[3 * k + 1]? = some (some right.y)

/-- Of `n` segments, each is followed by a gap, and there are no other gaps. -/
def IsParted (coordinates : List (Option α)) (n : ℕ) : Prop :=
  ∀ i, coordinates[i]? = some none ↔ ∃ k < n, i = 3 * k + 2

/-- A coordinate of each end of a segment, and a gap behind them. -/
def entries {β : Type} (left right : β → α) (b : β) : List (Option α) :=
  [some (left b), some (right b), none]

section Entries

variable {β : Type} (left right : β → α)

lemma length_entries (b : β) : (entries left right b).length = 3 := rfl

lemma isParted_flatMap (l : List β) : IsParted (l.flatMap (entries left right)) l.length := by
  intro i
  have hplace : i % 3 < 3 := Nat.mod_lt i (Nat.zero_lt_succ 2)
  have hentry := getElem?_flatMap_of_length (length_entries left right) l (i / 3) hplace
  rw [Nat.div_add_mod] at hentry
  rw [hentry]
  constructor
  · intro hgap
    obtain ⟨b, hb, hnone⟩ := Option.bind_eq_some_iff.mp hgap
    refine ⟨i / 3, (List.getElem?_eq_some_iff.mp hb).1, ?_⟩
    -- only the last of the three entries is a gap
    interval_cases hrest : i % 3
    · simp [entries] at hnone
    · simp [entries] at hnone
    · omega
  · rintro ⟨k, hk, rfl⟩
    have hdiv : (3 * k + 2) / 3 = k := by omega
    have hrest : (3 * k + 2) % 3 = 2 := by omega
    rw [hdiv, hrest, List.getElem?_eq_getElem hk]
    rfl

end Entries

variable [Arithmetic α] [Trigonometry α]

/-- The end of an arrow on the left, half the length away from its sample. -/
def leftEnd (half : α) (s : Sample α) : Point α :=
  ⟨s.x - half * cos (atan s.slope), s.y - half * sin (atan s.slope)⟩

def rightEnd (half : α) (s : Sample α) : Point α :=
  ⟨s.x + half * cos (atan s.slope), s.y + half * sin (atan s.slope)⟩

variable (samples : List (Sample α)) (length : α)

lemma xs_segments :
    (Arrows.segments samples length).xs =
      samples.flatMap (entries (fun s => (leftEnd (length / Arithmetic.ofInt 2) s).x)
        fun s => (rightEnd (length / Arithmetic.ofInt 2) s).x) :=
  List.flatMap_map _ _ _

lemma ys_segments :
    (Arrows.segments samples length).ys =
      samples.flatMap (entries (fun s => (leftEnd (length / Arithmetic.ofInt 2) s).y)
        fun s => (rightEnd (length / Arithmetic.ofInt 2) s).y) :=
  List.flatMap_map _ _ _

variable {samples} in
lemma hasSegment_segments {k : ℕ} {s : Sample α} (hs : samples[k]? = some s) :
    HasSegment (Arrows.segments samples length) k (leftEnd (length / Arithmetic.ofInt 2) s)
      (rightEnd (length / Arithmetic.ofInt 2) s) := by
  have hentry (left right : Sample α → α) {j : ℕ} (hj : j < 3) :
      (samples.flatMap (entries left right))[3 * k + j]? = (entries left right s)[j]? := by
    rw [getElem?_flatMap_of_length (length_entries left right) samples k hj, hs]
    rfl
  have hfirst : 0 < 3 := Nat.zero_lt_succ 2
  have hsecond : 1 < 3 := Nat.one_lt_succ_succ 1
  constructor
  case left_x => exact xs_segments samples length ▸ hentry _ _ hfirst
  case left_y => exact ys_segments samples length ▸ hentry _ _ hfirst
  case right_x => exact xs_segments samples length ▸ hentry _ _ hsecond
  case right_y => exact ys_segments samples length ▸ hentry _ _ hsecond

end Segments

/-! ## Real arrows -/

/-- What arrows ask of the functions for angles: the angle of a slope points to the right, and its
sine and cosine are the sides of a right triangle that rises with this slope. -/
structure HasDirections (T : Trigonometry ℝ) : Prop where
  cos_pos : ∀ s : ℝ, 0 < cos (atan s)
  sin_eq : ∀ s : ℝ, sin (atan s) = s * cos (atan s)
  cos_sq_add_sin_sq : ∀ s : ℝ, cos (atan s) ^ 2 + sin (atan s) ^ 2 = 1

/-- The segment from `left` to `right` is an arrow of this length on the sample, in the Euclidean
plane. -/
structure IsArrow (s : Sample ℝ) (length : ℝ) (left right : Point ℝ) : Prop where
  midpoint_eq : midpoint ℝ (!₂[left.x, left.y] : EuclideanSpace ℝ (Fin 2)) !₂[right.x, right.y] =
    !₂[s.x, s.y]
  dist_eq : dist (!₂[left.x, left.y] : EuclideanSpace ℝ (Fin 2)) !₂[right.x, right.y] = length
  slope_eq : (right.y - left.y) / (right.x - left.x) = s.slope
  left_lt : left.x < right.x

/-- Over the real numbers every number is finite, and no operation rounds. -/
noncomputable local instance realArithmetic : Arithmetic ℝ where
  ofInt n := n
  abs x := |x|
  lt a b := decide (a < b)
  le a b := decide (a ≤ b)
  isFinite _ := true
  undefined := 0

section Arrow

variable [T : Trigonometry ℝ] (s : Sample ℝ) (length : ℝ)

lemma midpoint_ends :
    midpoint ℝ (!₂[(leftEnd length s).x, (leftEnd length s).y] : EuclideanSpace ℝ (Fin 2))
      !₂[(rightEnd length s).x, (rightEnd length s).y] = !₂[s.x, s.y] := by
  ext i
  fin_cases i <;> simp [leftEnd, rightEnd, midpoint_eq_smul_add] <;> ring

variable {s length}

lemma width_ends :
    (rightEnd (length / 2) s).x - (leftEnd (length / 2) s).x = length * cos (atan s.slope) := by
  simp only [leftEnd, rightEnd]
  ring

lemma height_ends :
    (rightEnd (length / 2) s).y - (leftEnd (length / 2) s).y = length * sin (atan s.slope) := by
  simp only [leftEnd, rightEnd]
  ring

lemma HasDirections.dist_ends (h : HasDirections T) (hlength : 0 < length) :
    dist (!₂[(leftEnd (length / 2) s).x, (leftEnd (length / 2) s).y] : EuclideanSpace ℝ (Fin 2))
      !₂[(rightEnd (length / 2) s).x, (rightEnd (length / 2) s).y] = length := by
  refine (sq_eq_sq₀ dist_nonneg hlength.le).mp ?_
  rw [dist_comm, EuclideanSpace.dist_sq_eq, Fin.sum_univ_two, Real.dist_eq, Real.dist_eq, sq_abs,
    sq_abs]
  calc ((rightEnd (length / 2) s).x - (leftEnd (length / 2) s).x) ^ 2 +
        ((rightEnd (length / 2) s).y - (leftEnd (length / 2) s).y) ^ 2
      = length ^ 2 * (cos (atan s.slope) ^ 2 + sin (atan s.slope) ^ 2) := by
        rw [width_ends, height_ends]
        ring
    _ = length ^ 2 := by rw [h.cos_sq_add_sin_sq, mul_one]

lemma HasDirections.isArrow (h : HasDirections T) (hlength : 0 < length) :
    IsArrow s length (leftEnd (length / 2) s) (rightEnd (length / 2) s) := by
  have hcos := h.cos_pos s.slope
  have hwidth : 0 < length * cos (atan s.slope) := mul_pos hlength hcos
  constructor
  case midpoint_eq => exact midpoint_ends s _
  case dist_eq => exact h.dist_ends hlength
  case slope_eq =>
    rw [height_ends, width_ends, h.sin_eq, mul_left_comm, mul_div_assoc, div_self hwidth.ne',
      mul_one]
  case left_lt => exact sub_pos.mp (width_ends ▸ hwidth)

/-- The line of all arrows has three entries for each sample: the ends of a segment that is centred
on the sample, has exactly the length that is asked for, rises with the slope of the sample and runs
from left to right, and behind it a gap. There is no other gap. -/
theorem arrows_centred_on_samples (h : HasDirections T) (samples : List (Sample ℝ))
    (hlength : 0 < length) :
    let line := Arrows.segments samples length
    (line.xs.length = 3 * samples.length ∧ line.ys.length = 3 * samples.length) ∧
    (IsParted line.xs samples.length ∧ IsParted line.ys samples.length) ∧
    ∀ k s, samples[k]? = some s →
      ∃ left right, HasSegment line k left right ∧ IsArrow s length left right := by
  have hhalf : length / Arithmetic.ofInt 2 = length / 2 := congrArg (length / ·) Int.cast_two
  refine ⟨⟨?_, ?_⟩, ⟨?_, ?_⟩, ?_⟩
  · rw [xs_segments, length_flatMap_of_length (length_entries _ _)]
  · rw [ys_segments, length_flatMap_of_length (length_entries _ _)]
  · rw [xs_segments]
    exact isParted_flatMap _ _ samples
  · rw [ys_segments]
    exact isParted_flatMap _ _ samples
  · intro k s hs
    exact ⟨_, _, hasSegment_segments length hs, hhalf ▸ h.isArrow hlength⟩

end Arrow

/-- The inverse tangent and the circular functions. -/
noncomputable abbrev circular : Trigonometry ℝ where
  atan := Real.arctan
  cos := Real.cos
  sin := Real.sin

lemma hasDirections_circular : HasDirections circular where
  cos_pos := Real.cos_arctan_pos
  sin_eq s := by
    have htan := Real.tan_arctan s
    rw [Real.tan_eq_sin_div_cos, div_eq_iff (Real.cos_arctan_pos s).ne'] at htan
    exact htan
  cos_sq_add_sin_sq s := Real.cos_sq_add_sin_sq (Real.arctan s)

/-- A steep and a falling slope, with the circular functions: the second arrow is found in the
places behind those of the first. -/
theorem arrows_centred_on_samples_falling :
    HasDirections circular ∧ (0 : ℝ) < 3 / 2 ∧
    ∃ left right,
      HasSegment (@Arrows.segments ℝ _ circular [⟨0, 1, 40⟩, ⟨2, -1, -3⟩] (3 / 2)) 1 left right ∧
        IsArrow ⟨2, -1, -3⟩ (3 / 2) left right := by
  have hlength : (0 : ℝ) < 3 / 2 := by norm_num
  obtain ⟨-, -, harrow⟩ := @arrows_centred_on_samples circular (3 / 2) hasDirections_circular
    [⟨0, 1, 40⟩, ⟨2, -1, -3⟩] hlength
  exact ⟨hasDirections_circular, hlength, harrow 1 ⟨2, -1, -3⟩ rfl⟩

end DirectionField.Proofs
