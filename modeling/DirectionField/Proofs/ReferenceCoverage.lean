import DirectionField.EighthOrder
import DirectionField.Proofs.Doubles

/-!
# What a reference solution covers

A reference solution is asked for along abscissae that increase, and answered at the first of them
that lie to the right of its seed, up to where the method stops. A method that stops before it comes
to any of them is a fault, where an empty answer is in order when nothing is asked.
-/

namespace DirectionField.Proofs

open Reference (isIncreasing)

/-! ## Increasing abscissae -/

section Increasing

lemma Extended.lt_trans {a b c : Extended} (hab : Extended.lt a b = true)
    (hbc : Extended.lt b c = true) : Extended.lt a c = true := by
  cases a <;> cases b <;> cases c <;> simp_all [Extended.lt]
  exact hab.trans hbc

lemma Extended.le_self {a : Extended} (ha : a ≠ .undefined) : Extended.le a a = true := by
  cases a <;> simp_all [Extended.le, Extended.beq]

/-- The first double is below the second. -/
def IsBelow (a b : Float) : Prop := Arithmetic.lt a b = true

instance : IsTrans Float IsBelow where
  trans a b c hab hbc := by
    unfold IsBelow at *
    rw [lt_double] at *
    exact Extended.lt_trans hab hbc

lemma IsBelow.le {a b : Float} (h : IsBelow a b) : Arithmetic.le a b = true := by
  have hlt := (lt_double a b).symm.trans h
  rw [le_double, Extended.le, hlt, Bool.true_or]

lemma le_self_of_isFinite {a : Float} (h : Arithmetic.isFinite a = true) :
    Arithmetic.le a a = true := by
  obtain ⟨q, hq⟩ := (isFinite_double_iff a).mp h
  rw [le_double, hq]
  exact Extended.le_self nofun

variable {xs : List Float}

lemma isIncreasing_iff_isChain : isIncreasing xs = true ↔ xs.IsChain IsBelow := by
  fun_induction isIncreasing xs with
  | case1 a b r ih => rw [Bool.and_eq_true, ih, List.isChain_cons_cons, IsBelow]
  | case2 xs hshort =>
    match xs with
    | [] | [_] => simp
    | a :: b :: r => exact absurd rfl (hshort a b r)

lemma isIncreasing_iff_pairwise : isIncreasing xs = true ↔ xs.Pairwise IsBelow := by
  rw [isIncreasing_iff_isChain, List.isChain_iff_pairwise]

lemma isIncreasing_filter (p : Float → Bool) (h : isIncreasing xs = true) :
    isIncreasing (xs.filter p) = true :=
  isIncreasing_iff_pairwise.mpr ((isIncreasing_iff_pairwise.mp h).filter p)

end Increasing

/-! ## Methods -/

/-- What is asked of a method: along abscissae that increase from the seed to the end it answers the
first ones in their order, up to where it stops. -/
def AnswersInOrder (M : Reference.Method Float) : Prop :=
  ∀ f seed xEnd wanted, isIncreasing wanted = true →
    (∀ t ∈ wanted, Arithmetic.le seed.x t = true ∧ Arithmetic.le t xEnd = true) →
    (M.follow f seed xEnd wanted).points.map (·.x) <+: wanted

section EighthOrder

open EighthOrder

variable (f : Float → Float → Float) (xEnd : Float)

lemma map_x_foldl (value : Float → Float) (passed : List Float) (done : List (Point Float)) :
    (passed.foldl (fun done x => ⟨x, value x⟩ :: done) done).reverse.map (·.x) =
      done.reverse.map (·.x) ++ passed := by
  induction passed generalizing done with
  | nil => simp
  | cons x passed ih =>
    rw [List.foldl_cons, ih]
    simp

/-- By induction on the number of steps: each one answers the abscissae that it passes, and these
are the first of those that are left. -/
lemma advance_points (fuel : ℕ) (p : Position) (wanted : List Float) (done : List (Point Float)) :
    ∃ covered, covered <+: wanted ∧
      (advance f xEnd fuel p wanted done).points.map (·.x) =
        done.reverse.map (·.x) ++ covered := by
  induction fuel generalizing p wanted done with
  | zero => exact ⟨[], List.nil_prefix, (List.append_nil _).symm⟩
  | succ fuel ih =>
    rw [advance]
    dsimp only
    split
    case h_1 => exact ⟨[], List.nil_prefix, (List.append_nil _).symm⟩
    case h_2 t next _ =>
      simp only [List.span_eq_takeWhile_dropWhile]
      split
      case isTrue => exact ⟨_, List.takeWhile_prefix _, map_x_foldl _ _ _⟩
      case isFalse =>
        obtain ⟨covered, ⟨rest, hrest⟩, hpoints⟩ := ih ⟨t.x, t.y, t.slope, next⟩
          (wanted.dropWhile fun x => decide (x ≤ t.x)) _
        refine ⟨wanted.takeWhile (fun x => decide (x ≤ t.x)) ++ covered, ⟨rest, ?_⟩, ?_⟩
        · rw [List.append_assoc, hrest, List.takeWhile_append_dropWhile]
        · rw [hpoints, map_x_foldl, List.append_assoc]

lemma answersInOrder_eighthOrder : AnswersInOrder method := by
  intro f seed xEnd wanted _ _
  obtain ⟨covered, hprefix, hpoints⟩ := advance_points f xEnd 1000000
    ⟨seed.x, seed.y, f seed.x seed.y, firstWidth f seed.x seed.y (f seed.x seed.y) xEnd⟩ wanted []
  rw [List.reverse_nil, List.map_nil, List.nil_append] at hpoints
  exact hpoints ▸ hprefix

end EighthOrder

/-! ## Overlays -/

/-- The datum holds the number, without loss. -/
structure Holds (d : Datum Float) (x : Float) : Prop where
  toNumber : d.toNumber = .ok x
  exactValue : d.exactValue? = some (Numeral.exact x)

lemma Holds.le {d : Datum Float} {x : Float} (h : Holds d x) (y : Float) :
    (Datum.real y).le d = .ok (Arithmetic.le y x) := by
  have hvalue := h.exactValue
  cases d with
  | real z => rw [Except.ok.inj h.toNumber]; rfl
  | flag | whole =>
    simp only [Datum.le, Datum.inOrder, Datum.compareNumbers, hvalue, le_double]
    rfl
  | missing | text | list | record => cases hvalue

/-- The abscissae that do not lie to the left of the seed. -/
def wantedFrom (seed : Point Float) (xs : List Float) : List Float :=
  xs.filter fun t => Arithmetic.le seed.x t

/-- Abscissae that increase up to the last one, at least two of them. -/
structure AreOrdinary (xs : List Float) (xEnd : Float) : Prop where
  increasing : isIncreasing xs = true
  finite : ∀ t ∈ xs, Arithmetic.isFinite t = true
  last : xs.getLast? = some xEnd
  two_le : 2 ≤ xs.length

section Overlay

variable {xs : List Float} {xEnd : Float} (hxs : AreOrdinary xs xEnd)
include hxs

/-- No abscissa lies to the right of the last one. -/
lemma AreOrdinary.le_last {t : Float} (ht : t ∈ xs) : Arithmetic.le t xEnd = true := by
  obtain ⟨init, rfl⟩ := List.getLast?_eq_some_iff.mp hxs.last
  have hlast : xEnd ∈ init ++ [xEnd] := List.mem_append_right init (List.mem_singleton_self xEnd)
  obtain hinit | heq := List.mem_append.mp ht
  · have hpairwise := isIncreasing_iff_pairwise.mp hxs.increasing
    exact ((List.pairwise_append.mp hpairwise).2.2 t hinit xEnd (List.mem_singleton_self xEnd)).le
  · rw [List.mem_singleton.mp heq]
    exact le_self_of_isFinite (hxs.finite xEnd hlast)

variable {M : Reference.Method Float} (f : Float → Float → Float) {x₀ y₀ : Datum Float}
  {seed : Point Float}

variable (seed) in
lemma AreOrdinary.filter_eq :
    xs.filter (fun t => Arithmetic.le seed.x t && Arithmetic.le t xEnd) = wantedFrom seed xs := by
  refine List.filter_congr fun t ht => ?_
  rw [hxs.le_last ht, Bool.and_true]

lemma AreOrdinary.prefix_wantedFrom (hM : AnswersInOrder M) :
    (M.follow f seed xEnd (wantedFrom seed xs)).points.map (·.x) <+: wantedFrom seed xs := by
  refine hM f seed xEnd _ (isIncreasing_filter _ hxs.increasing) fun t ht => ?_
  obtain ⟨hmem, hle⟩ := List.mem_filter.mp ht
  exact ⟨hle, hxs.le_last hmem⟩

variable (M) in
lemma AreOrdinary.trajectory_of_behind (hx : Holds x₀ seed.x)
    (hbehind : Arithmetic.le xEnd seed.x = true) :
    Reference.trajectory M f x₀ y₀ xs = (.ok [], []) := by
  have hlength : ¬ xs.length < 2 := by
    have htwo := hxs.two_le
    omega
  simp only [Reference.trajectory, hxs.last, hlength, hx.le, hbehind, if_false]

variable (M seed) in
/-- Where the last abscissa lies to the right of the seed, the method is asked. -/
lemma AreOrdinary.trajectory_of_ahead (hx : Holds x₀ seed.x) (hy : Holds y₀ seed.y)
    (hordinate : Arithmetic.isFinite seed.y = true) (hahead : Arithmetic.le xEnd seed.x = false) :
    Reference.trajectory M f x₀ y₀ xs =
      let answer := M.follow f seed xEnd (wantedFrom seed xs)
      (if answer.points.isEmpty then .error .noIndex else .ok answer.points,
        if answer.finished then [] else [.referenceStopped]) := by
  have hlength : ¬ xs.length < 2 := by
    have htwo := hxs.two_le
    omega
  have hwanted : isIncreasing (wantedFrom seed xs) = true := isIncreasing_filter _ hxs.increasing
  simp only [Reference.trajectory, hxs.last, hlength, hx.le, hahead, hx.toNumber, hy.toNumber,
    hxs.filter_eq seed, hordinate, hwanted, Bool.not_true, Bool.or_self, Bool.false_eq_true,
    if_false]

variable (seed) in
/-- Nothing is answered where the last abscissa does not lie to the right of the seed. Where it
does, the points of the method are answered, at the first of the abscissae from the seed on, and a
method that has come to none of them is a fault; there is no other fault. That the method has
stopped early is noted. -/
theorem reference_fails_where_uncovered (hM : AnswersInOrder M) (hx : Holds x₀ seed.x)
    (hy : Holds y₀ seed.y) (hordinate : Arithmetic.isFinite seed.y = true) :
    let answer := M.follow f seed xEnd (wantedFrom seed xs)
    let overlay := Reference.trajectory M f x₀ y₀ xs
    (Arithmetic.le xEnd seed.x = true → overlay = (.ok [], [])) ∧
    (Arithmetic.le xEnd seed.x = false →
      (answer.points ≠ [] → overlay.1 = .ok answer.points) ∧
      (answer.points = [] → overlay.1 = .error .noIndex) ∧
      (overlay.2 = [] ↔ answer.finished = true)) ∧
    (∀ points, overlay.1 = .ok points → points.map (·.x) <+: wantedFrom seed xs) ∧
    ((∃ fault, overlay.1 = .error fault) ↔
      Arithmetic.le xEnd seed.x = false ∧ answer.points = []) := by
  intro answer overlay
  have hprefix : answer.points.map (·.x) <+: wantedFrom seed xs := hxs.prefix_wantedFrom f hM
  cases hside : Arithmetic.le xEnd seed.x with
  | true =>
    have hoverlay : overlay = (.ok [], []) := hxs.trajectory_of_behind M f hx hside
    simp [hoverlay]
  | false =>
    have hoverlay : overlay = (if answer.points.isEmpty then .error .noIndex
        else .ok answer.points, if answer.finished then [] else [.referenceStopped]) :=
      hxs.trajectory_of_ahead M f seed hx hy hordinate hside
    cases hpoints : answer.points with
    | nil => simp [hoverlay, hpoints]
    | cons p points =>
      rw [hpoints] at hprefix
      simpa [hoverlay, hpoints] using hprefix

end Overlay

/-- The flat field through `(0, 1)`, along abscissae of which one lies to the left of the seed. -/
theorem reference_fails_where_uncovered_flat :
    AnswersInOrder EighthOrder.method ∧ AreOrdinary [-1, 0.5, 2] 2 ∧
    Holds (.whole 0) 0 ∧ Holds (.real 1) 1 ∧ Arithmetic.isFinite (1 : Float) = true ∧
    Arithmetic.le (2 : Float) 0 = false ∧
    ∀ points, (Reference.trajectory EighthOrder.method (fun _ _ => 0) (.whole 0) (.real 1)
        [-1, 0.5, 2]).1 = .ok points →
      points.map (·.x) <+: wantedFrom ⟨0, 1⟩ [-1, 0.5, 2] := by
  have hxs : AreOrdinary [-1, 0.5, 2] 2 :=
    ⟨by decide +kernel, by decide +kernel, rfl, by decide⟩
  have hx : Holds (.whole 0) 0 := ⟨rfl, by decide +kernel⟩
  have hy : Holds (.real 1) 1 := ⟨rfl, rfl⟩
  have hordinate : Arithmetic.isFinite (1 : Float) = true := by decide +kernel
  obtain ⟨-, -, hprefix, -⟩ := reference_fails_where_uncovered hxs (fun _ _ => 0) ⟨0, 1⟩
    answersInOrder_eighthOrder hx hy hordinate
  exact ⟨answersInOrder_eighthOrder, hxs, hx, hy, hordinate, by decide +kernel, hprefix⟩

/-! ## A slope that is too steep to follow -/

section Steep

open EighthOrder
open Float.Model (UnpackedFloat)

/-- A constant slope at the end of the range of doubles. -/
def steepSlope : Float := 1.7e308

def IsUndefined (a : Float) : Prop := Numeral.exact a = .undefined

instance (a : Float) : Decidable (IsUndefined a) :=
  inferInstanceAs (Decidable (Numeral.exact a = .undefined))

lemma isUndefined_iff {a : Float} : IsUndefined a ↔ a.toModel.unpack = .notANumber := by
  rw [IsUndefined, exact_double, valueOf_eq_undefined_iff]

lemma unpack_pack_notANumber :
    (Float.Model.pack .notANumber).unpack = UnpackedFloat.notANumber := rfl

variable {a : Float} (b : Float)

lemma IsUndefined.div (h : IsUndefined a) : IsUndefined (a / b) := by
  have hquotient : (a / b).toModel = Float.Model.pack
    (UnpackedFloat.div .binary64 a.toModel.unpack b.toModel.unpack) := rfl
  have hundefined (v : UnpackedFloat) :
      UnpackedFloat.div .binary64 .notANumber v = .notANumber := by
    cases v <;> rfl
  rw [isUndefined_iff] at *
  rw [hquotient, h, hundefined, unpack_pack_notANumber]

lemma IsUndefined.mul_left (h : IsUndefined a) : IsUndefined (b * a) := by
  have hproduct : (b * a).toModel = Float.Model.pack
    (UnpackedFloat.mul .binary64 b.toModel.unpack a.toModel.unpack) := rfl
  have hundefined (v : UnpackedFloat) :
      UnpackedFloat.mul .binary64 v .notANumber = .notANumber := by
    cases v <;> rfl
  rw [isUndefined_iff] at *
  rw [hproduct, h, hundefined, unpack_pack_notANumber]

lemma IsUndefined.not_lt (h : IsUndefined a) : ¬ a < b := by
  intro hlt
  have hlt' : Arithmetic.lt a b = true := decide_eq_true hlt
  rw [lt_double, h] at hlt'
  cases hlt'

lemma IsUndefined.beq_eq_false (h : IsUndefined a) : (a == b) = false := by
  have hbeq : (a == b) = UnpackedFloat.beq a.toModel.unpack b.toModel.unpack := rfl
  rw [hbeq, isUndefined_iff.mp h]
  rfl

lemma undefined_error : IsUndefined (dot fifthOrderError (List.replicate 13 steepSlope)) := by
  decide +kernel

/-- Undefined stages make the estimate undefined, so that no width of step is within the
tolerance. -/
lemma isUndefined_errorOf {t : Trial} (y : Float)
    (h : IsUndefined (dot fifthOrderError t.stages)) : IsUndefined (errorOf y t) := by
  have hsquare (s : Float) : IsUndefined
      (dot fifthOrderError t.stages / s * (dot fifthOrderError t.stages / s)) :=
    (h.div s).mul_left _
  unfold errorOf
  dsimp only
  rw [(hsquare _).beq_eq_false, Bool.false_and, if_neg Bool.false_ne_true]
  exact ((hsquare _).mul_left _).div _

/-- By induction on the number of trials: where no trial is within the tolerance, none is
accepted. -/
lemma accept_eq_none {f : Float → Float → Float} {p : Position} {xEnd least : Float}
    (h : ∀ x w, ¬ errorOf p.y { trial f p.x p.y p.slope w with x := x } < 1.0) (fuel : ℕ)
    (rejected : Bool) (width : Float) : accept f p xEnd least fuel rejected width = none := by
  induction fuel generalizing rejected width with
  | zero => rfl
  | succ fuel ih =>
    rw [accept]
    dsimp only
    rw [if_neg (h _ _), ih, ite_self]

lemma not_accepted_steep (p : Position) (hslope : p.slope = steepSlope) (x w : Float) :
    ¬ errorOf p.y { trial (fun _ _ => steepSlope) p.x p.y p.slope w with x := x } < 1.0 := by
  have hstages : (trial (fun _ _ => steepSlope) p.x p.y p.slope w).stages =
      List.replicate 13 steepSlope := by
    -- wherever a stage is evaluated, the slope is the same
    rw [hslope]
    rfl
  have hundefined : IsUndefined (errorOf p.y
      { trial (fun _ _ => steepSlope) p.x p.y p.slope w with x := x }) := by
    refine isUndefined_errorOf p.y ?_
    dsimp only
    rw [hstages]
    exact undefined_error
  exact hundefined.not_lt 1.0

lemma follow_steep (seed : Point Float) (xEnd : Float) (wanted : List Float) :
    method.follow (fun _ _ => steepSlope) seed xEnd wanted = ⟨[], false⟩ := by
  have hnone (p : Position) (hslope : p.slope = steepSlope) (least width : Float) :
      accept (fun _ _ => steepSlope) p xEnd least 20000 false width = none :=
    accept_eq_none (not_accepted_steep p hslope) 20000 false width
  simp only [method]
  rw [advance]
  dsimp only
  rw [hnone]
  · rfl
  · rfl

/-- The steep field through the origin: its slope is finite, the abscissae are in order and lie to
the right of the seed, and the method comes to none of them. -/
theorem steep_reference_is_fault :
    Arithmetic.isFinite steepSlope = true ∧ AreOrdinary [1, 2] 2 ∧
    Arithmetic.le (2 : Float) 0 = false ∧
    (Reference.trajectory method (fun _ _ => steepSlope) (.real 0) (.real 0) [1, 2]).1 =
      .error .noIndex := by
  have hxs : AreOrdinary [1, 2] 2 := ⟨by decide +kernel, by decide +kernel, rfl, by decide⟩
  have hahead : Arithmetic.le (2 : Float) 0 = false := by decide +kernel
  refine ⟨by decide +kernel, hxs, hahead, ?_⟩
  rw [hxs.trajectory_of_ahead method _ ⟨0, 0⟩ ⟨rfl, rfl⟩ ⟨rfl, rfl⟩ (by decide +kernel)
    hahead, follow_steep]
  rfl

end Steep

end DirectionField.Proofs
