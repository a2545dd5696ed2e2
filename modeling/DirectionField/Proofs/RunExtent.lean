import DirectionField.Proofs.Orbit

/-!
# Runs from given values

A run that returns has read its seed, its width of step and its limit as numbers, and its points are
an initial part of the orbit of these. A run whose values are numbers returns.
-/

namespace DirectionField.Proofs

lemma bind_eq_ok {ε β γ : Type} {x : Except ε β} {g : β → Except ε γ} {c : γ} :
    (x >>= g) = .ok c ↔ ∃ b, x = .ok b ∧ g b = .ok c := by
  cases x <;> simp [Bind.bind, Except.bind]

lemma bind_eq_error {ε β γ : Type} {x : Except ε β} {g : β → Except ε γ} {e : ε} :
    (x >>= g) = .error e ↔ x = .error e ∨ ∃ b, x = .ok b ∧ g b = .error e := by
  cases x <;> simp [Bind.bind, Except.bind]

lemma map_eq_ok {ε β γ : Type} {x : Except ε β} {g : β → γ} {c : γ} :
    x.map g = .ok c ↔ ∃ b, x = .ok b ∧ g b = c := by
  cases x <;> simp [Except.map]

lemma exists_of_decided {ε β : Type} {x : Except ε β} {P : β → Prop} [DecidablePred P]
    (h : (x.toOption.any fun b => decide (P b)) = true) : ∃ b, x = .ok b ∧ P b := by
  cases x with
  | error e => cases h
  | ok b => exact ⟨b, rfl, of_decide_eq_true h⟩

section Runs

variable {α : Type} [Numeral α]

lemma isEqual_whole (m n : Int) :
    (Datum.whole m : Datum α).isEqual (.whole n) = decide (m = n) := by
  simp [Datum.isEqual, Datum.compareNumbers, Datum.exactValue?, Datum.whole?, Extended.beq]

/-- A datum that equals a whole number has its value. -/
lemma isEqual_whole_iff {d : Datum α} {n : Int} :
    d.isEqual (.whole n) = true ↔ d.exactValue? = some (.finite n) := by
  cases d with
  | real x =>
    cases hx : Numeral.exact x <;>
      simp [Datum.isEqual, Datum.compareNumbers, Datum.exactValue?, Datum.whole?, hx, Extended.beq]
  | _ => simp [Datum.isEqual, Datum.compareNumbers, Datum.exactValue?, Datum.whole?, Extended.beq]

lemma toWhole_of_whole? {d : Datum α} {n : Int} (hd : d.whole? = some n) : d.toWhole = .ok n := by
  cases d <;> simp [Datum.whole?] at hd <;> simp [Datum.toWhole, Datum.whole?, hd]

lemma seed_unique {x₀ y₀ : Datum α} {p q : Point α} (hx : x₀.toNumber = .ok p.x)
    (hy : y₀.toNumber = .ok p.y) (hx' : x₀.toNumber = .ok q.x) (hy' : y₀.toNumber = .ok q.y) :
    p = q := by
  have hxx : p.x = q.x := Except.ok.inj (hx.symm.trans hx')
  have hyy : p.y = q.y := Except.ok.inj (hy.symm.trans hy')
  cases p
  cases q
  exact congrArg₂ Point.mk hxx hyy

/-- The rectangle of settings as a region. -/
def regionOf (s : Settings α) (p : Point α) : Except Fault Bool :=
  s.contains (.real p.x) (.real p.y)

/-- The number of steps that a box run may take: the number given, or else that of the settings. -/
def boxLimit (s : Settings α) (maxSteps : Datum α) : Except Fault Nat :=
  if maxSteps.isMissing then Run.stepLimit s.maxSteps else maxSteps.toWhole.map Int.toNat

/-- The signed width of the steps of a box run. -/
def signedWidth (d : Int) (w : α) : α := Arithmetic.ofInt d * Arithmetic.abs w

variable {f : α → α → α} {x₀ y₀ xEnd h ceiling maxSteps : Datum α} {s : Settings α} {r : Run α}

/-- What a box run to the right or to the left reads, and the loop that it is. -/
lemma box_ok_iff {d : Int} (hd : d = 1 ∨ d = -1) :
    Run.box f x₀ y₀ h s (.whole d) maxSteps = .ok r ↔
      ∃ seed w limit, x₀.toNumber = .ok seed.x ∧ y₀.toNumber = .ok seed.y ∧ h.toNumber = .ok w ∧
        boxLimit s maxSteps = .ok limit ∧
        Run.inside f (regionOf s) seed (signedWidth d w) limit = .ok r := by
  have hbox : Run.box f x₀ y₀ h s (.whole d) maxSteps = .ok r ↔
      ∃ l, (if maxSteps.isMissing then .ok s.maxSteps else maxSteps.toWhole.map .whole) = .ok l ∧
        ∃ x, x₀.toNumber = .ok x ∧ ∃ y, y₀.toNumber = .ok y ∧ ∃ w, h.toNumber = .ok w ∧
          ∃ limit, Run.stepLimit l = .ok limit ∧
            Run.inside f (regionOf s) ⟨x, y⟩ (signedWidth d w) limit = .ok r := by
    unfold Run.box
    rcases hd with rfl | rfl <;> cases maxSteps.isMissing <;>
      simp [isEqual_whole, bind_eq_ok] <;> rfl
  have hlimit (limit : Nat) : boxLimit s maxSteps = .ok limit ↔
      ∃ l, (if maxSteps.isMissing then .ok s.maxSteps else maxSteps.toWhole.map .whole) = .ok l ∧
        Run.stepLimit l = .ok limit := by
    unfold boxLimit
    cases maxSteps.isMissing <;> simp [map_eq_ok, Run.stepLimit, Datum.whole?]
  simp only [hbox, hlimit]
  constructor
  · rintro ⟨l, hl, x, hx, y, hy, w, hw, limit, hlim, hr⟩
    exact ⟨⟨x, y⟩, w, limit, hx, hy, hw, ⟨l, hl, hlim⟩, hr⟩
  · rintro ⟨seed, w, limit, hx, hy, hw, ⟨l, hl, hlim⟩, hr⟩
    exact ⟨l, hl, seed.x, hx, seed.y, hy, w, hw, limit, hlim, hr⟩

lemma box_extent {d : Int} (hd : d = 1 ∨ d = -1)
    (hr : Run.box f x₀ y₀ h s (.whole d) maxSteps = .ok r) :
    ∃ seed w limit n, x₀.toNumber = .ok seed.x ∧ y₀.toNumber = .ok seed.y ∧ h.toNumber = .ok w ∧
      boxLimit s maxSteps = .ok limit ∧
      Extent (AdmittedIn f (regionOf s) seed (signedWidth d w)) limit n ∧
      r.points = orbitUpTo f seed (signedWidth d w) n := by
  obtain ⟨seed, w, limit, hx, hy, hw, hlimit, hrun⟩ := (box_ok_iff hd).mp hr
  obtain ⟨n, hn, hpoints⟩ := inside_extent hrun
  exact ⟨seed, w, limit, n, hx, hy, hw, hlimit, hn, hpoints⟩

section Numbers

variable {d : Int} (hd : d = 1 ∨ d = -1) {seed : Point α} {w : α} {limit : Nat}
  (hx : x₀.toNumber = .ok seed.x) (hy : y₀.toNumber = .ok seed.y) (hw : h.toNumber = .ok w)
  (hlimit : boxLimit s maxSteps = .ok limit)
  (hr : Run.box f x₀ y₀ h s (.whole d) maxSteps = .ok r)
include hd hx hy hw hlimit hr

/-- A box run whose data are numbers is the loop with these. -/
lemma inside_of_box : Run.inside f (regionOf s) seed (signedWidth d w) limit = .ok r := by
  obtain ⟨seed', w', limit', hx', hy', hw', hlimit', hrun⟩ := (box_ok_iff hd).mp hr
  have hsame := seed_unique hx' hy' hx hy
  have hwidth := Except.ok.inj (hw'.symm.trans hw)
  have hbound := Except.ok.inj (hlimit'.symm.trans hlimit)
  subst hsame hwidth hbound
  exact hrun

/-- How far a box run whose data are numbers goes. -/
lemma box_extent_of_numbers :
    ∃ n, r.points = orbitUpTo f seed (signedWidth d w) n ∧
      Extent (AdmittedIn f (regionOf s) seed (signedWidth d w)) limit n := by
  obtain ⟨n, hn, hpoints⟩ := inside_extent (inside_of_box hd hx hy hw hlimit hr)
  exact ⟨n, hpoints, hn⟩

end Numbers

/-- How far an interval run goes. A ceiling that is no number is not noticed while there is no step
to do. -/
lemma interval_extent (hr : Run.interval f x₀ y₀ xEnd h ceiling = .ok r) :
    ∃ seed e w n, x₀.toNumber = .ok seed.x ∧ y₀.toNumber = .ok seed.y ∧ xEnd.toNumber = .ok e ∧
      h.toNumber = .ok w ∧ Settings.checkStep h = .ok () ∧
      r.points = orbitUpTo f seed w n ∧
      ∀ limit, Run.ceilingSteps seed.x e w ceiling = .ok limit →
        Extent (StartsBefore f seed w e) limit n := by
  unfold Run.interval at hr
  simp only [bind_eq_ok] at hr
  obtain ⟨_, hstep, x, hx, y, hy, e, he, w, hw, hr⟩ := hr
  by_cases hlt : Arithmetic.lt x e = true
  · rw [if_pos hlt, bind_eq_ok] at hr
    obtain ⟨limit, hlimit, hr⟩ := hr
    obtain ⟨n, hn, hpoints⟩ := upTo_extent f ⟨x, y⟩ w e limit
    refine ⟨⟨x, y⟩, e, w, n, hx, hy, he, hw, hstep, ?_, ?_⟩
    · cases hr
      exact hpoints
    · intro limit' hlimit'
      rw [hlimit, Except.ok.injEq] at hlimit'
      exact hlimit' ▸ hn
  · rw [if_neg hlt] at hr
    cases hr
    exact ⟨⟨x, y⟩, e, w, 0, hx, hy, he, hw, hstep, rfl, fun _ _ => Extent.zero_of_refused hlt⟩

lemma ceilingSteps_whole (x e w : α) (n : Int) :
    Run.ceilingSteps x e w (.whole n) = .ok n.toNat := by
  simp [Run.ceilingSteps, Datum.exactValue?, Datum.whole?]

/-! ## Runs that return -/

lemma inOrder_total {a b : Datum α} (ha : a.isNumber = true) (hb : b.isNumber = true)
    (strict : Bool) : ∃ t, Datum.inOrder strict a b = .ok t := by
  cases strict <;> cases a <;> simp [Datum.isNumber] at ha <;> cases b <;>
    simp [Datum.isNumber] at hb <;>
    simp [Datum.inOrder, Datum.compareNumbers, Datum.exactValue?, Datum.whole?]

/-- Whether the borders of the rectangle are numbers. -/
structure HasBorders (s : Settings α) : Prop where
  xMin : s.xMin.isNumber = true
  xMax : s.xMax.isNumber = true
  yMin : s.yMin.isNumber = true
  yMax : s.yMax.isNumber = true

lemma HasBorders.contains_total (hs : HasBorders s) (p : Point α) :
    ∃ b, regionOf s p = .ok b := by
  have hreal (x : α) : (Datum.real x).isNumber = true := rfl
  obtain ⟨a, ha⟩ := inOrder_total hs.xMin (hreal p.x) false
  obtain ⟨b, hb⟩ := inOrder_total (hreal p.x) hs.xMax false
  obtain ⟨c, hc⟩ := inOrder_total hs.yMin (hreal p.y) false
  obtain ⟨d, hd⟩ := inOrder_total (hreal p.y) hs.yMax false
  simp only [regionOf, Settings.contains, Datum.le, ha, hb, hc, hd]
  cases a <;> cases b <;> cases c <;> exact ⟨_, rfl⟩

lemma box_returns (hs : HasBorders s) {d : Int} (hd : d = 1 ∨ d = -1) {seed : Point α} {w : α}
    {limit : Nat} (hx : x₀.toNumber = .ok seed.x) (hy : y₀.toNumber = .ok seed.y)
    (hw : h.toNumber = .ok w) (hlimit : boxLimit s maxSteps = .ok limit) :
    ∃ r, Run.box f x₀ y₀ h s (.whole d) maxSteps = .ok r := by
  obtain ⟨r, hr⟩ := insideFrom_ok (f := f) (h := signedWidth d w) hs.contains_total seed.x limit 1
    seed [seed]
  exact ⟨r, (box_ok_iff hd).mpr ⟨seed, w, limit, hx, hy, hw, hlimit, hr⟩⟩

/-- An interval run under a whole ceiling reads four numbers and does the steps between the first and
the last abscissa, if there are any. -/
lemma interval_whole {seed : Point α} {e w : α} (hstep : Settings.checkStep h = .ok ())
    (hx : x₀.toNumber = .ok seed.x) (hy : y₀.toNumber = .ok seed.y) (he : xEnd.toNumber = .ok e)
    (hw : h.toNumber = .ok w) (n : Int) :
    Run.interval f x₀ y₀ xEnd h (.whole n) =
      if Arithmetic.lt seed.x e then .ok (Run.upTo f seed e w n.toNat)
      else .ok ⟨[seed], .reached⟩ := by
  simp [Run.interval, hstep, hx, hy, he, hw, ceilingSteps_whole, Bind.bind, Except.bind,
    Pure.pure, Except.pure]

lemma interval_returns {seed : Point α} {e w : α} (hstep : Settings.checkStep h = .ok ())
    (hx : x₀.toNumber = .ok seed.x) (hy : y₀.toNumber = .ok seed.y) (he : xEnd.toNumber = .ok e)
    (hw : h.toNumber = .ok w) (n : Int) :
    ∃ r, Run.interval f x₀ y₀ xEnd h (.whole n) = .ok r := by
  rw [interval_whole hstep hx hy he hw]
  split <;> exact ⟨_, rfl⟩

end Runs

end DirectionField.Proofs
