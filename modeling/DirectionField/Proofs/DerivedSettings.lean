import DirectionField.Proofs.CheckedSettings
import DirectionField.Proofs.Doubles

/-!
# Settings derived from settings

Settings are derived one from the other by calls that give another rectangle, another width of step
or another number of steps. Each call is checked with what it leaves as it was. Along any calls the
settings stay admissible, each of the three parts is the one that was written last, and calls for
different parts commute.
-/

namespace DirectionField.Proofs

section Derived

variable {α : Type}

/-- A call that gives a rectangle, or a width and a number of steps of which either may be
missing. -/
inductive Change (α : Type) where
  | bounds (xMin xMax yMin yMax : Datum α)
  | step (h maxSteps : Datum α)

/-- The parts of the settings that a call writes, read as numbers. -/
structure Writes (α : Type) where
  bounds : Option (Grid.Rectangle α)
  step : Option α
  maxSteps : Option ℤ

/-- The borders in the order in which settings list them. -/
def borders (r : Grid.Rectangle α) : List (Datum α) :=
  [.real r.xMin, .real r.xMax, .real r.yMin, .real r.yMax]

/-- The settings with some parts written and the others left. -/
def Writes.onto (w : Writes α) (s : Settings α) : Settings α where
  xMin := (w.bounds.map fun r => .real r.xMin).getD s.xMin
  xMax := (w.bounds.map fun r => .real r.xMax).getD s.xMax
  yMin := (w.bounds.map fun r => .real r.yMin).getD s.yMin
  yMax := (w.bounds.map fun r => .real r.yMax).getD s.yMax
  step := (w.step.map .real).getD s.step
  maxSteps := (w.maxSteps.map .whole).getD s.maxSteps

/-- Settings in which each part is the one that was written last, or else that of `s`. -/
structure HasLastWrites (s : Settings α) (ws : List (Writes α)) (t : Settings α) : Prop where
  bounds : t.bounds = ((ws.filterMap (·.bounds)).getLast?.map borders).getD s.bounds
  step : t.step = ((ws.filterMap (·.step)).getLast?.map .real).getD s.step
  maxSteps : t.maxSteps = ((ws.filterMap (·.maxSteps)).getLast?.map .whole).getD s.maxSteps

lemma bounds_onto (w : Writes α) (s : Settings α) :
    (w.onto s).bounds = (w.bounds.map borders).getD s.bounds := by
  obtain ⟨bounds, step, maxSteps⟩ := w
  cases bounds <;> rfl

lemma HasLastWrites.nil (s : Settings α) : HasLastWrites s [] s := ⟨rfl, rfl, rfl⟩

lemma getD_getLast?_filterMap_cons {β γ δ : Type} (part : β → Option γ) (f : γ → δ) (b : β)
    (bs : List β) (d : δ) :
    (((b :: bs).filterMap part).getLast?.map f).getD d =
      ((bs.filterMap part).getLast?.map f).getD (((part b).map f).getD d) := by
  cases hb : part b with
  | none => simp [List.filterMap_cons_none hb]
  | some c =>
    rw [List.filterMap_cons_some hb, List.getLast?_cons]
    cases (bs.filterMap part).getLast? <;> rfl

lemma HasLastWrites.cons {w : Writes α} {s t : Settings α} {ws : List (Writes α)}
    (h : HasLastWrites (w.onto s) ws t) : HasLastWrites s (w :: ws) t where
  bounds := by rw [h.bounds, getD_getLast?_filterMap_cons, bounds_onto]
  step := by rw [h.step, getD_getLast?_filterMap_cons]; rfl
  maxSteps := by rw [h.maxSteps, getD_getLast?_filterMap_cons]; rfl

variable [Numeral α]

/-! ## Admissible settings -/

/-- Both ranges run upwards, the width is positive and at least one step is allowed. -/
structure IsAdmissible (s : Settings α) : Prop where
  x : s.xMin.lt s.xMax = .ok true
  y : s.yMin.lt s.yMax = .ok true
  step : (Datum.whole 0).lt s.step = .ok true
  maxSteps : ∃ n, s.maxSteps.toWhole = .ok n ∧ 1 ≤ n

variable {s t u : Settings α}

lemma checkRange_ok_iff {axis : Axis} {low high : Datum α} :
    Settings.checkRange axis low high = .ok () ↔ low.lt high = .ok true := by
  rw [Settings.checkRange]
  cases low.lt high with
  | error => simp [Bind.bind, Except.bind]
  | ok b => cases b <;> simp [Bind.bind, Except.bind, Pure.pure, Except.pure]

lemma checkStep_ok_iff {h : Datum α} :
    Settings.checkStep h = .ok () ↔ (Datum.whole 0).lt h = .ok true := by
  rw [Settings.checkStep]
  cases (Datum.whole 0).lt h with
  | error => simp [Bind.bind, Except.bind]
  | ok b => cases b <;> simp [Bind.bind, Except.bind, Pure.pure, Except.pure]

lemma checkMaxSteps_ok_iff {d : Datum α} :
    Settings.checkMaxSteps d = .ok () ↔ ∃ n, d.toWhole = .ok n ∧ 1 ≤ n := by
  rw [Settings.checkMaxSteps]
  cases d.toWhole with
  | error => simp [Bind.bind, Except.bind]
  | ok n =>
    obtain hn | hn := Int.lt_or_le n 1
    · simp [hn, Int.not_le.mpr hn, Bind.bind, Except.bind]
    · simp [hn, Int.not_lt.mpr hn, Bind.bind, Except.bind, Pure.pure, Except.pure]

lemma checked_iff_isAdmissible : s.checked = .ok t ↔ t = s ∧ IsAdmissible s := by
  simp only [Settings.checked, bind_eq_ok]
  constructor
  · rintro ⟨_, hx, _, hy, _, hstep, _, hlimit, heq⟩
    exact ⟨(Except.ok.inj heq).symm, checkRange_ok_iff.mp hx, checkRange_ok_iff.mp hy,
      checkStep_ok_iff.mp hstep, checkMaxSteps_ok_iff.mp hlimit⟩
  · rintro ⟨rfl, hx, hy, hstep, hlimit⟩
    exact ⟨(), checkRange_ok_iff.mpr hx, (), checkRange_ok_iff.mpr hy, (),
      checkStep_ok_iff.mpr hstep, (), checkMaxSteps_ok_iff.mpr hlimit, rfl⟩

/-! ## Calls -/

namespace Change

/-- What a call answers. -/
def apply (s : Settings α) : Change α → Except Fault (Settings α)
  | .bounds xMin xMax yMin yMax => s.withBounds [xMin, xMax, yMin, yMax]
  | .step h maxSteps => s.withStep h maxSteps

/-- A call that is refused leaves the settings in place. -/
def next (s : Settings α) (c : Change α) : Settings α := (c.apply s).toOption.getD s

def after (s : Settings α) (cs : List (Change α)) : Settings α := cs.foldl next s

/-- The calls that succeed, of calls that are made in turn. -/
def successful (s : Settings α) : List (Change α) → List (Change α)
  | [] => []
  | c :: cs => if (c.apply s).isOk then c :: successful (next s c) cs else successful (next s c) cs

end Change

/-- The datum is missing and gives nothing, or it is read as the value that it gives. -/
inductive ReadsTo {β : Type} (read : Datum α → Except Fault β) : Datum α → Option β → Prop
  | missing : ReadsTo read .missing none
  | given {d : Datum α} {v : β} (hgiven : d.isMissing = false) (hread : read d = .ok v) :
    ReadsTo read d (some v)

/-- All that is given in the call can be read, as these numbers. -/
inductive Gives : Change α → Writes α → Prop
  | bounds {xMin xMax yMin yMax : Datum α} {r : Grid.Rectangle α}
    (hxMin : xMin.toNumber = .ok r.xMin) (hxMax : xMax.toNumber = .ok r.xMax)
    (hyMin : yMin.toNumber = .ok r.yMin) (hyMax : yMax.toNumber = .ok r.yMax) :
    Gives (.bounds xMin xMax yMin yMax) ⟨some r, none, none⟩
  | step {h maxSteps : Datum α} {w : Option α} {n : Option ℤ}
    (hh : ReadsTo Datum.toNumber h w) (hmax : ReadsTo Datum.toWhole maxSteps n) :
    Gives (.step h maxSteps) ⟨none, w, n⟩

omit [Numeral α] in
lemma ReadsTo.unique {β : Type} {read : Datum α → Except Fault β} {d : Datum α} {v v' : Option β}
    (h : ReadsTo read d v) (h' : ReadsTo read d v') : v = v' := by
  cases h with
  | missing =>
    cases h' with
    | missing => rfl
    | given hgiven => cases hgiven
  | given hgiven hread =>
    cases h' with
    | missing => cases hgiven
    | given _ hread' => rw [Except.ok.inj (hread.symm.trans hread')]

lemma Gives.unique {c : Change α} {w w' : Writes α} (h : Gives c w) (h' : Gives c w') : w = w' := by
  cases h with
  | bounds h₁ h₂ h₃ h₄ =>
    cases h' with
    | bounds h₁' h₂' h₃' h₄' =>
      rename_i r r'
      obtain ⟨a, b, c, d⟩ := r
      obtain ⟨a', b', c', d'⟩ := r'
      cases h₁.symm.trans h₁'
      cases h₂.symm.trans h₂'
      cases h₃.symm.trans h₃'
      cases h₄.symm.trans h₄'
      rfl
  | step hh hmax =>
    cases h' with
    | step hh' hmax' => rw [hh.unique hh', hmax.unique hmax']

omit [Numeral α] in
/-- The part of the settings that comes of a datum that may be missing. -/
lemma part_ok_iff {β : Type} {read : Datum α → Except Fault β} {d old new : Datum α}
    {f : β → Datum α} :
    (if d.isMissing then .ok old else (read d).map f) = .ok new ↔
      ∃ v, ReadsTo read d v ∧ new = (v.map f).getD old := by
  constructor
  · intro h
    split at h
    case isTrue hmissing =>
      cases d <;> simp [Datum.isMissing] at hmissing
      exact ⟨none, .missing, (Except.ok.inj h).symm⟩
    case isFalse hgiven =>
      obtain ⟨v, hv, rfl⟩ := map_eq_ok.mp h
      exact ⟨some v, .given (Bool.eq_false_of_not_eq_true hgiven) hv, rfl⟩
  · rintro ⟨v, hv, rfl⟩
    cases hv with
    | missing => rfl
    | given hgiven hread => rw [hgiven, hread]; rfl

/-- The width is read before the number of steps. -/
lemma withStep_eq (h maxSteps : Datum α) :
    s.withStep h maxSteps =
      (if h.isMissing then .ok s.step else h.toNumber.map .real) >>= fun step =>
        (if maxSteps.isMissing then .ok s.maxSteps else maxSteps.toWhole.map .whole) >>=
          fun limit => Settings.checked { s with step := step, maxSteps := limit } := by
  unfold Settings.withStep
  cases h.isMissing <;> cases maxSteps.isMissing <;> rfl

/-- A call succeeds exactly if all that it gives can be read and its writes, together with what it
leaves, are admissible. -/
lemma apply_ok_iff {c : Change α} :
    c.apply s = .ok t ↔ ∃ w, Gives c w ∧ t = w.onto s ∧ IsAdmissible t := by
  cases c with
  | bounds xMin xMax yMin yMax =>
    simp only [Change.apply, Settings.withBounds, bind_eq_ok, checked_iff_isAdmissible]
    constructor
    · rintro ⟨a, ha, b, hb, c, hc, d, hd, rfl, hadmissible⟩
      exact ⟨_, .bounds (r := ⟨a, b, c, d⟩) ha hb hc hd, rfl, hadmissible⟩
    · rintro ⟨w, hw, rfl, hadmissible⟩
      cases hw with
      | bounds ha hb hc hd => exact ⟨_, ha, _, hb, _, hc, _, hd, rfl, hadmissible⟩
  | step h maxSteps =>
    simp only [Change.apply, withStep_eq, bind_eq_ok, checked_iff_isAdmissible, part_ok_iff]
    constructor
    · rintro ⟨_, ⟨w, hw, rfl⟩, _, ⟨n, hn, rfl⟩, rfl, hadmissible⟩
      exact ⟨_, .step hw hn, rfl, hadmissible⟩
    · rintro ⟨w, hw, rfl, hadmissible⟩
      cases hw with
      | step hw hn => exact ⟨_, ⟨_, hw, rfl⟩, _, ⟨_, hn, rfl⟩, rfl, hadmissible⟩

lemma apply_error_iff {c : Change α} :
    (∃ fault, c.apply s = .error fault) ↔
      (¬ ∃ w, Gives c w) ∨ ∃ w, Gives c w ∧ ¬ IsAdmissible (w.onto s) := by
  have hnotOk : (∃ fault, c.apply s = .error fault) ↔ ¬ ∃ t, c.apply s = .ok t := by
    cases c.apply s <;> simp
  rw [hnotOk]
  constructor
  · intro hrefused
    by_cases hgives : ∃ w, Gives c w
    · obtain ⟨w, hw⟩ := hgives
      refine .inr ⟨w, hw, fun hadmissible => hrefused ⟨w.onto s, ?_⟩⟩
      exact apply_ok_iff.mpr ⟨w, hw, rfl, hadmissible⟩
    · exact .inl hgives
  · rintro hfails ⟨t, ht⟩
    obtain ⟨w, hw, rfl, hadmissible⟩ := apply_ok_iff.mp ht
    obtain hnone | ⟨w', hw', hnot⟩ := hfails
    · exact hnone ⟨w, hw⟩
    · exact hnot (hw.unique hw' ▸ hadmissible)

/-! ## Calls in turn -/

lemma next_of_ok {c : Change α} (h : c.apply s = .ok t) : Change.next s c = t := by
  rw [Change.next, h]
  rfl

lemma next_of_error {c : Change α} {fault : Fault} (h : c.apply s = .error fault) :
    Change.next s c = s := by
  rw [Change.next, h]
  rfl

lemma IsAdmissible.next (hs : IsAdmissible s) (c : Change α) : IsAdmissible (Change.next s c) := by
  cases hc : c.apply s with
  | error fault => exact (next_of_error hc).symm ▸ hs
  | ok t =>
    obtain ⟨-, -, -, ht⟩ := apply_ok_iff.mp hc
    exact (next_of_ok hc).symm ▸ ht

lemma IsAdmissible.after (hs : IsAdmissible s) (cs : List (Change α)) :
    IsAdmissible (Change.after s cs) := by
  induction cs generalizing s with
  | nil => exact hs
  | cons c cs ih => exact ih (hs.next c)

/-- By induction on the calls: one that succeeds writes first of all, and one that is refused does
not count. -/
lemma after_hasLastWrites (s : Settings α) (cs : List (Change α)) :
    ∃ ws, List.Forall₂ Gives (Change.successful s cs) ws ∧
      HasLastWrites s ws (Change.after s cs) := by
  induction cs generalizing s with
  | nil => exact ⟨[], .nil, .nil s⟩
  | cons c cs ih =>
    obtain ⟨ws, hgives, hlast⟩ := ih (Change.next s c)
    have hafter : Change.after s (c :: cs) = Change.after (Change.next s c) cs := rfl
    rw [hafter, Change.successful]
    cases hc : c.apply s with
    | error fault =>
      rw [next_of_error hc] at hgives hlast ⊢
      exact ⟨ws, hgives, hlast⟩
    | ok t =>
      obtain ⟨w, hw, rfl, -⟩ := apply_ok_iff.mp hc
      rw [next_of_ok hc] at hgives hlast ⊢
      exact ⟨w :: ws, .cons hw hgives, hlast.cons⟩

/-- A rectangle and a step are written to different parts, and neither check looks at both. -/
lemma apply_comm (hs : IsAdmissible s) (xMin xMax yMin yMax h maxSteps : Datum α) :
    (∃ v, Change.apply s (.bounds xMin xMax yMin yMax) = .ok v ∧
      Change.apply v (.step h maxSteps) = .ok u) ↔
    ∃ v, Change.apply s (.step h maxSteps) = .ok v ∧
      Change.apply v (.bounds xMin xMax yMin yMax) = .ok u := by
  simp only [apply_ok_iff]
  -- the part that the first call leaves has been checked before, that of the second by the second
  constructor
  · rintro ⟨_, ⟨w, hw, rfl, hv⟩, w', hw', rfl, hu⟩
    cases hw with
    | bounds hxMin hxMax hyMin hyMax =>
      cases hw' with
      | step hh hmax =>
        exact ⟨_, ⟨_, .step hh hmax, rfl, hs.x, hs.y, hu.step, hu.maxSteps⟩, _,
          .bounds hxMin hxMax hyMin hyMax, rfl, hu⟩
  · rintro ⟨_, ⟨w, hw, rfl, hv⟩, w', hw', rfl, hu⟩
    cases hw with
    | step hh hmax =>
      cases hw' with
      | bounds hxMin hxMax hyMin hyMax =>
        exact ⟨_, ⟨_, .bounds hxMin hxMax hyMin hyMax, rfl, hu.x, hu.y, hs.step, hs.maxSteps⟩, _,
          .step hh hmax, rfl, hu⟩

end Derived

/-! ## Settings in doubles -/

section Doubles

variable {a b : Datum Float}

lemma lt_of_numbers {p q : Extended} (ha : a.exactValue? = some p) (hb : b.exactValue? = some q) :
    a.lt b = .ok (Extended.lt p q) := by
  cases a <;> simp [Datum.exactValue?, Datum.whole?] at ha <;>
    cases b <;> simp [Datum.exactValue?, Datum.whole?] at hb <;>
    simp [Datum.lt, Datum.inOrder, Datum.compareNumbers, Datum.exactValue?, Datum.whole?, lt_double,
      ha, hb]

/-- A number stands in no order to what is none. -/
lemma lt_of_mixed (h : a.exactValue?.isSome ≠ b.exactValue?.isSome) :
    a.lt b = .error .mismatch := by
  cases a <;> cases b <;> simp [Datum.exactValue?, Datum.whole?] at h <;> rfl

/-- What stands below something else or above it is not the undefined number. -/
lemma defined_of_lt (h : a.lt b = .ok true) :
    a.exactValue? ≠ some .undefined ∧ b.exactValue? ≠ some .undefined := by
  have hsame : a.exactValue?.isSome = b.exactValue?.isSome := by
    by_contra hmixed
    rw [lt_of_mixed hmixed] at h
    cases h
  cases ha : a.exactValue? with
  | none =>
    cases hb : b.exactValue? with
    | none => simp
    | some q => simp [ha, hb] at hsame
  | some p =>
    cases hb : b.exactValue? with
    | none => simp [ha, hb] at hsame
    | some q =>
      have hlt : Extended.lt p q = true := Except.ok.inj ((lt_of_numbers ha hb).symm.trans h)
      cases p <;> cases q <;> simp_all [Extended.lt]

lemma IsAdmissible.defined {s : Settings Float} (h : IsAdmissible s) :
    ∀ d ∈ [s.xMin, s.xMax, s.yMin, s.yMax, s.step], d.exactValue? ≠ some .undefined := by
  obtain ⟨hxMin, hxMax⟩ := defined_of_lt h.x
  obtain ⟨hyMin, hyMax⟩ := defined_of_lt h.y
  obtain ⟨-, hstep⟩ := defined_of_lt h.step
  simp [hxMin, hxMax, hyMin, hyMax, hstep]

/-- From settings that pass the checks, whatever calls are made in turn, one that is refused leaving
the settings in place: the settings stay admissible, so that neither a border nor the width is
undefined; each part is the one that the last successful call for it wrote, or else the first one; a
call is refused exactly if something given in it cannot be read or its writes are not admissible
together with what it leaves; and a rectangle and a step may be given in either order. -/
theorem derived_settings_keep_last_writes {s₀ s : Settings Float} (hs : s₀.checked = .ok s)
    (cs : List (Change Float)) :
    let t := Change.after s cs
    (IsAdmissible t ∧
      ∀ d ∈ [t.xMin, t.xMax, t.yMin, t.yMax, t.step], d.exactValue? ≠ some .undefined) ∧
    (∃ ws, List.Forall₂ Gives (Change.successful s cs) ws ∧ HasLastWrites s ws t) ∧
    (∀ c : Change Float, (∃ fault, c.apply t = .error fault) ↔
      (¬ ∃ w, Gives c w) ∨ ∃ w, Gives c w ∧ ¬ IsAdmissible (w.onto t)) ∧
    ∀ (xMin xMax yMin yMax h maxSteps : Datum Float) (u : Settings Float),
      (∃ v, Change.apply t (.bounds xMin xMax yMin yMax) = .ok v ∧
        Change.apply v (.step h maxSteps) = .ok u) ↔
      ∃ v, Change.apply t (.step h maxSteps) = .ok v ∧
        Change.apply v (.bounds xMin xMax yMin yMax) = .ok u := by
  intro t
  obtain ⟨rfl, hadmissible⟩ := checked_iff_isAdmissible.mp hs
  have ht : IsAdmissible t := hadmissible.after cs
  refine ⟨⟨ht, ht.defined⟩, after_hasLastWrites s cs, fun c => apply_error_iff, ?_⟩
  intro xMin xMax yMin yMax h maxSteps u
  exact apply_comm ht xMin xMax yMin yMax h maxSteps

/-- A width that is given as a text, a rectangle whose first range runs downwards, a rectangle of
mixed data, and a number of steps without a width. -/
def fourCalls : List (Change Float) :=
  [.step (.text "0.25") .missing, .bounds (.whole 1) (.whole (-1)) (.whole 0) (.whole 1),
    .bounds (.whole 0) (.real 2.5) (.text "-1") (.flag true), .step .missing (.real 7.9)]

/-- The second of the calls is refused and leaves nothing behind. -/
theorem derived_settings_keep_last_writes_four :
    (Settings.standard : Settings Float).checked = .ok Settings.standard ∧
    (Change.successful Settings.standard fourCalls).length = 3 ∧
    IsAdmissible (Change.after Settings.standard fourCalls) ∧
    ∃ ws, List.Forall₂ Gives (Change.successful Settings.standard fourCalls) ws ∧
      HasLastWrites Settings.standard ws (Change.after Settings.standard fourCalls) := by
  have hvalid : (Settings.standard : Settings Float).checked = .ok Settings.standard :=
    checked_of_isOk (by decide +kernel)
  obtain ⟨⟨hadmissible, -⟩, hwrites, -, -⟩ := derived_settings_keep_last_writes hvalid fourCalls
  exact ⟨hvalid, by decide +kernel, hadmissible, hwrites⟩

end Doubles

end DirectionField.Proofs
