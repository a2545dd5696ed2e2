import DirectionField.Proofs.FieldOperations
import DirectionField.Proofs.Rational

/-!
# The store of curves

A field session keeps its curves as a list of the live ones and a count of all that were ever added.
The count numbers the curves. Every run of commands, whether or not each of them is carried out, is
a run of this store: no number is used twice, and a live curve is the one that was given out.
-/

namespace DirectionField.Proofs

/-! ## Replies -/

/-- What a command gives. -/
inductive Reply (α : Type) where
  | slope (r : Except Fault (Slope α))
  | done
  | added (r : Except Fault (Curve α))
  | removed (found : Bool)
  | curves (cs : List (Curve α))
  | summaries (cs : List (Curve.Summary α))
  | samples (r : Except Fault (List (Sample α)))

/-- The curve that is given out, if there is one. -/
def Reply.curve? {α : Type} : Reply α → Option (Curve α)
  | .added (.ok c) => some c
  | _ => none

section Transcripts

variable {ε α : Type} [Numeral α]

/-- What a session gives on a command. -/
def reply (C : Calculus ε α) (s : Field α) : Field.Command α → Reply α
  | .setEquation raw => .slope (s.setEquation C raw).result
  | .setSettings _ => .done
  | .addCurve x₀ y₀ => .added (s.addCurve C x₀ y₀).result
  | .removeCurve id => .removed (s.removeCurve id).2
  | .clearCurves => .done
  | .curves => .curves s.curves
  | .summaries => .summaries s.summaries
  | .sample bounds density => .samples (s.sample C bounds density).result

abbrev Transcript (α : Type) := List (Field.Command α × Reply α)

/-- What a session gives on a list of commands, one after the other. -/
def transcript (C : Calculus ε α) (s : Field α) : List (Field.Command α) → Transcript α
  | [] => []
  | c :: cs => (c, reply C s c) :: transcript C (s.step C c) cs

/-- The curves that were given out, the earliest first. -/
def handedOut (t : Transcript α) : List (Curve α) := t.filterMap fun e => e.2.curve?

end Transcripts

lemma handedOut_cons {α : Type} (c : Field.Command α) (r : Reply α) (t : Transcript α) :
    handedOut ((c, r) :: t) = r.curve?.toList ++ handedOut t := by
  unfold handedOut
  rw [List.filterMap_cons]
  cases r.curve? <;> rfl

/-! ## The abstract store -/

/-- The live curves and how many were added. -/
structure Store (α : Type) where
  live : List (Curve α)
  added : Nat

/-- The datum is the number of the curve. -/
def Names {α : Type} [Numeral α] (id : Datum α) (c : Curve α) : Prop :=
  id.exactValue? = some (.finite c.id)

namespace Store

/-- The numbers of the live curves increase along the list and were all given. -/
structure Numbered {α : Type} (S : Store α) : Prop where
  increasing : S.live.Pairwise fun c d => c.id < d.id
  given : ∀ c ∈ S.live, c.id ≤ S.added

lemma Numbered.sublist {α : Type} {S : Store α} (h : Numbered S) {l : List (Curve α)}
    (hl : l.Sublist S.live) :
    Numbered ⟨l, S.added⟩ :=
  ⟨h.increasing.sublist hl, fun d hd => h.given d (hl.subset hd)⟩

section Steps

variable {α : Type} [Numeral α]

/-- What each command may do to a store, and what it gives. -/
inductive Step (paletteSize : ℤ) (S : Store α) : Field.Command α → Reply α → Store α → Prop
  | add (x₀ y₀ : Datum α) (c : Curve α) (hid : c.id = S.added + 1)
      (hcolor : c.colorIndex = S.live.length % paletteSize) :
      Step paletteSize S (.addCurve x₀ y₀) (.added (.ok c)) ⟨S.live ++ [c], S.added + 1⟩
  | addFailed (x₀ y₀ : Datum α) (e : Fault) :
      Step paletteSize S (.addCurve x₀ y₀) (.added (.error e)) S
  | remove (id : Datum α) (before after : List (Curve α)) (c : Curve α)
      (hlive : S.live = before ++ c :: after) (hc : Names id c)
      (hothers : ∀ d ∈ before ++ after, ¬ Names id d) :
      Step paletteSize S (.removeCurve id) (.removed true) ⟨before ++ after, S.added⟩
  | removeUnknown (id : Datum α) (hnone : ∀ c ∈ S.live, ¬ Names id c) :
      Step paletteSize S (.removeCurve id) (.removed false) S
  | clear : Step paletteSize S .clearCurves .done ⟨[], S.added⟩
  | setEquation (raw : Option String) (r : Except Fault (Slope α)) :
      Step paletteSize S (.setEquation raw) (.slope r) S
  | setSettings (settings : Settings α) : Step paletteSize S (.setSettings settings) .done S
  | curves : Step paletteSize S .curves (.curves S.live) S
  | summaries : Step paletteSize S .summaries (.summaries (S.live.map Curve.summary)) S
  | sample (bounds density : Datum α) (r : Except Fault (List (Sample α))) :
      Step paletteSize S (.sample bounds density) (.samples r) S

/-- The runs of a store. -/
inductive Run (paletteSize : ℤ) : Store α → Transcript α → Store α → Prop
  | nil (S : Store α) : Run paletteSize S [] S
  | cons {S T U : Store α} {c : Field.Command α} {r : Reply α} {t : Transcript α}
      (step : Step paletteSize S c r T) (rest : Run paletteSize T t U) :
      Run paletteSize S ((c, r) :: t) U

variable {paletteSize : ℤ} {S T : Store α} {c : Field.Command α} {r : Reply α} {t : Transcript α}

lemma Step.numbered (hstep : Step paletteSize S c r T) (h : Numbered S) : Numbered T := by
  cases hstep with
  | add x₀ y₀ c hid hcolor =>
    constructor
    · refine List.pairwise_append.mpr ⟨h.increasing, List.pairwise_singleton _ _, ?_⟩
      intro d hd c' hc'
      rw [List.mem_singleton.mp hc', hid]
      exact Int.lt_add_one_of_le (h.given d hd)
    · intro d hd
      push_cast
      rcases List.mem_append.mp hd with hd | hd
      · exact (h.given d hd).trans (Int.le_add_one le_rfl)
      · rw [List.mem_singleton.mp hd, hid]
  | remove id before after c hlive hc hothers =>
    have hsub : (before ++ after).Sublist S.live := by
      rw [hlive]
      exact (List.Sublist.refl before).append (List.sublist_cons_self c after)
    exact h.sublist hsub
  | clear => exact h.sublist (List.nil_sublist _)
  | addFailed | removeUnknown | setEquation | setSettings | curves | summaries | sample => exact h

lemma Step.live_sublist (hstep : Step paletteSize S c r T) :
    T.live.Sublist (S.live ++ r.curve?.toList) := by
  cases hstep with
  | add => exact List.Sublist.refl _
  | remove id before after c hlive hc hothers =>
    rw [hlive]
    exact ((List.Sublist.refl before).append (List.sublist_cons_self c after)).trans
      (List.sublist_append_left _ _)
  | clear => exact List.nil_sublist _
  | addFailed | removeUnknown | setEquation | setSettings | curves | summaries | sample =>
    exact List.sublist_append_left _ _

lemma Step.ids (hstep : Step paletteSize S c r T) :
    (r.curve?.toList.map Curve.id) =
        (List.range' (S.added + 1) r.curve?.toList.length).map Int.ofNat ∧
      T.added = S.added + r.curve?.toList.length := by
  cases hstep with
  | add x₀ y₀ c hid hcolor => simp [Reply.curve?, hid]
  | addFailed | remove | removeUnknown | clear | setEquation | setSettings | curves | summaries
    | sample => exact ⟨rfl, rfl⟩

/-- The live curves at the end of a run are among those at its beginning and those that it gives
out, in the same order. -/
lemma Run.live_sublist (hrun : Run paletteSize S t T) :
    T.live.Sublist (S.live ++ handedOut t) := by
  induction hrun with
  | nil S => exact List.sublist_append_left _ _
  | cons step rest ih =>
    rw [handedOut_cons, ← List.append_assoc]
    exact ih.trans (step.live_sublist.append (List.Sublist.refl _))

/-- A run gives out the numbers after those that are given, without a gap. -/
lemma Run.ids (hrun : Run paletteSize S t T) :
    (handedOut t).map Curve.id =
        (List.range' (S.added + 1) (handedOut t).length).map Int.ofNat ∧
      T.added = S.added + (handedOut t).length := by
  induction hrun with
  | nil S => exact ⟨rfl, rfl⟩
  | cons step rest ih =>
    obtain ⟨hids, hadded⟩ := step.ids
    rw [handedOut_cons, List.map_append, List.length_append, hids, ih.1, ih.2, hadded,
      ← List.map_append, Nat.add_right_comm, List.range'_append_1, Nat.add_assoc]
    exact ⟨rfl, rfl⟩

end Steps

end Store

/-! ## A session as a store -/

section Refinement

variable {α : Type} {paletteSize : ℤ} {s t : Field α} {S : Store α}

/-- The session keeps this store and has this many colours. -/
structure Represents (paletteSize : ℤ) (s : Field α) (S : Store α) : Prop where
  curves : s.curves = S.live
  nextId : s.nextId = S.added + 1
  palette : s.paletteSize = paletteSize

lemma Represents.of_sameStore (h : Represents paletteSize s S) (hst : SameStore s t) :
    Represents paletteSize t S :=
  ⟨hst.curves.trans h.curves, hst.nextId.trans h.nextId, by rw [hst.paletteSize, h.palette]⟩

variable {ε : Type} [Numeral α]

lemma isEqual_iff_names (id : Datum α) (c : Curve α) :
    (Datum.whole c.id).isEqual id = true ↔ Names id c := by
  cases id <;> simp [Names, Datum.isEqual, Datum.compareNumbers, Datum.exactValue?, Datum.whole?,
    Extended.beq, eq_comm]

/-- Numbers that increase tell curves apart. -/
lemma Store.Numbered.unique (h : S.Numbered) {id : Datum α} {before after : List (Curve α)}
    {c : Curve α} (hlive : S.live = before ++ c :: after) (hc : Names id c) :
    ∀ d ∈ before ++ after, ¬ Names id d := by
  intro d hd hd'
  have hid : d.id = c.id := by
    rw [Names, hc, Option.some.injEq, Extended.finite.injEq, Int.cast_inj] at hd'
    exact hd'.symm
  have hincreasing := h.increasing
  rw [hlive, List.pairwise_append, List.pairwise_cons] at hincreasing
  rcases List.mem_append.mp hd with hd | hd
  · exact (hincreasing.2.2 d hd c List.mem_cons_self).ne hid
  · exact (hincreasing.2.1.1 d hd).ne' hid

lemma removeCurve_step (h : Represents paletteSize s S) (hS : S.Numbered) (id : Datum α) :
    ∃ T, Store.Step paletteSize S (.removeCurve id) (.removed (s.removeCurve id).2) T ∧
      Represents paletteSize (s.removeCurve id).1 T := by
  rw [Field.removeCurve, h.curves]
  dsimp only
  by_cases hany : ∃ c ∈ S.live, (Datum.whole c.id).isEqual id = true
  · obtain ⟨d, hd, hdid⟩ := hany
    obtain ⟨c, before, after, hbefore, hc, hlive, herase⟩ :=
      List.exists_of_eraseP (p := fun c : Curve α => (Datum.whole c.id).isEqual id) hd hdid
    have htrue : S.live.any (fun c => (Datum.whole c.id).isEqual id) = true :=
      List.any_eq_true.mpr ⟨d, hd, hdid⟩
    have hnames : Names id c := (isEqual_iff_names id c).mp hc
    rw [htrue, herase]
    exact ⟨_, .remove id before after c hlive hnames (hS.unique hlive hnames),
      rfl, h.nextId, h.palette⟩
  · have hnone : ∀ c ∈ S.live, ¬ (Datum.whole c.id).isEqual id = true :=
      fun c hc hid => hany ⟨c, hc, hid⟩
    have hfalse : S.live.any (fun c => (Datum.whole c.id).isEqual id) = false :=
      List.any_eq_false.mpr hnone
    rw [hfalse, List.eraseP_of_forall_not hnone]
    refine ⟨S, .removeUnknown id ?_, rfl, h.nextId, h.palette⟩
    intro c hc hid
    exact hnone c hc ((isEqual_iff_names id c).mpr hid)

variable {C : Calculus ε α}

lemma addCurve_step (h : Represents paletteSize s S) (x₀ y₀ : Datum α) :
    ∃ T, Store.Step paletteSize S (.addCurve x₀ y₀) (.added (s.addCurve C x₀ y₀).result) T ∧
      Represents paletteSize (s.addCurve C x₀ y₀).session T := by
  have hsame := h.of_sameStore (ensureCompiled_sameStore C s)
  cases hr : (s.addCurve C x₀ y₀).result with
  | error e =>
    rw [session_of_addCurve_error hr]
    exact ⟨S, .addFailed x₀ y₀ e, hsame⟩
  | ok c =>
    obtain ⟨f, forward, backward, seed, hf, hforward, hbackward, hx, hy⟩ := runs_of_addCurve hr
    obtain ⟨hresult, hsession⟩ := addCurve_of_runs hf hforward hbackward hx hy
    rw [hr, Except.ok.injEq] at hresult
    have hid : c.id = S.added + 1 := by
      rw [hresult, ← Nat.cast_add_one, ← hsame.nextId]
      rfl
    have hcolor : c.colorIndex = S.live.length % paletteSize := by
      rw [hresult, ← hsame.curves, ← hsame.palette]
      rfl
    rw [hsession]
    refine ⟨_, .add x₀ y₀ c hid hcolor, ?_, ?_, hsame.palette⟩
    · rw [hresult, ← hsame.curves]
      rfl
    · rw [← hsame.nextId]
      rfl

/-- What a command does to a session is what it does to the store that the session keeps. -/
lemma step_refines (C : Calculus ε α) (h : Represents paletteSize s S) (hS : S.Numbered)
    (c : Field.Command α) :
    ∃ T, Store.Step paletteSize S c (reply C s c) T ∧ Represents paletteSize (s.step C c) T := by
  cases c with
  | setEquation raw =>
    exact ⟨S, .setEquation raw _, h.of_sameStore (setEquation_sameStore C s raw)⟩
  | setSettings settings => exact ⟨S, .setSettings settings, h.curves, h.nextId, h.palette⟩
  | addCurve x₀ y₀ => exact addCurve_step h x₀ y₀
  | removeCurve id => exact removeCurve_step h hS id
  | clearCurves => exact ⟨_, .clear, rfl, h.nextId, h.palette⟩
  | curves =>
    refine ⟨S, ?_, h⟩
    rw [reply, h.curves]
    exact .curves
  | summaries =>
    refine ⟨S, ?_, h⟩
    rw [reply, Field.summaries, h.curves]
    exact .summaries
  | sample bounds density =>
    refine ⟨S, .sample bounds density _, ?_⟩
    rw [Field.step, session_sample]
    exact h.of_sameStore (ensureCompiled_sameStore C s)

/-- Every run of commands is a run of the store. -/
lemma run_refines (C : Calculus ε α) (commands : List (Field.Command α))
    (h : Represents paletteSize s S) (hS : S.Numbered) :
    ∃ T, Store.Run paletteSize S (transcript C s commands) T ∧
      Represents paletteSize (s.after C commands) T ∧ T.Numbered := by
  -- the numbering is carried along: a removal is only that of the store where numbers are unique
  induction commands generalizing s S with
  | nil => exact ⟨S, .nil S, h, hS⟩
  | cons c commands ih =>
    obtain ⟨T, hstep, hT⟩ := step_refines C h hS c
    obtain ⟨U, hrun, hU, hnumbered⟩ := ih hT (hstep.numbered hS)
    exact ⟨U, .cons hstep hrun, hU, hnumbered⟩

/-- From a fresh session on, every run of commands, carried out or not, is a run of the store that
starts empty. The store at its end holds the live curves and counts those that were given out. The
numbers of the live curves increase along the list, no number is given out twice, and each live
curve is one that was given out. -/
theorem curves_refine_store (C : Calculus ε α) (settings : Settings α) {paletteSize : ℤ}
    (hpalette : 1 ≤ paletteSize) :
    ∃ s, Field.fresh settings paletteSize = .ok s ∧
      ∀ commands : List (Field.Command α),
        Store.Run paletteSize ⟨[], 0⟩ (transcript C s commands)
          ⟨(s.after C commands).curves, (handedOut (transcript C s commands)).length⟩ ∧
        ((s.after C commands).curves.Pairwise fun c d => c.id < d.id) ∧
        ((handedOut (transcript C s commands)).map Curve.id).Nodup ∧
        (s.after C commands).curves.Sublist (handedOut (transcript C s commands)) := by
  refine ⟨⟨settings, paletteSize.toNat, .idle, "", none, [], 1⟩, ?_, ?_⟩
  · rw [Field.fresh, if_neg (Int.not_lt.mpr hpalette)]
  · intro commands
    set s : Field α := ⟨settings, paletteSize.toNat, .idle, "", none, [], 1⟩
    have hs : Represents paletteSize s ⟨[], 0⟩ :=
      ⟨rfl, rfl, Int.toNat_of_nonneg (by omega)⟩
    have hempty : Store.Numbered (⟨[], 0⟩ : Store α) :=
      ⟨List.Pairwise.nil, fun c hc => absurd hc List.not_mem_nil⟩
    obtain ⟨T, hrun, hT, hnumbered⟩ := run_refines C commands hs hempty
    obtain ⟨hids, hadded⟩ := hrun.ids
    rw [Nat.zero_add] at hadded
    rw [hT.curves, ← hadded]
    refine ⟨hrun, hnumbered.increasing, ?_, hrun.live_sublist⟩
    rw [hids]
    exact (List.nodup_range' ..).map Int.ofNat_injective

/-- A session in two colours that adds a curve, clears the store, adds two curves and removes the
first of them: three curves are given out, and the last one is live. -/
theorem curves_refine_store_decay :
    (1 : ℤ) ≤ 2 ∧ ∃ s, Field.fresh decaySettings 2 = .ok s ∧
      let commands :=
        [.addCurve (.whole 0) (.whole 1), .clearCurves, .addCurve (.whole 0) (.whole 1),
          .addCurve (.whole 0) (.whole 1), .removeCurve (.whole 2)]
      Store.Run 2 ⟨[], 0⟩ (transcript decayCalculus s commands)
        ⟨(s.after decayCalculus commands).curves,
          (handedOut (transcript decayCalculus s commands)).length⟩ ∧
      ((s.after decayCalculus commands).curves.Pairwise fun c d => c.id < d.id) ∧
      ((handedOut (transcript decayCalculus s commands)).map Curve.id).Nodup ∧
      (s.after decayCalculus commands).curves.Sublist
        (handedOut (transcript decayCalculus s commands)) ∧
      (handedOut (transcript decayCalculus s commands)).map Curve.id = [1, 2, 3] ∧
      (s.after decayCalculus commands).curves.map Curve.id = [3] := by
  have hpalette : (1 : ℤ) ≤ 2 := by decide
  obtain ⟨s, hs, hruns⟩ := curves_refine_store decayCalculus decaySettings hpalette
  have hfresh : Field.fresh decaySettings 2 = .ok ⟨decaySettings, 2, .idle, "", none, [], 1⟩ := rfl
  cases hs.symm.trans hfresh
  refine ⟨hpalette, _, hfresh, ?_⟩
  intro commands
  obtain ⟨hrun, hincreasing, hnodup, hsublist⟩ := hruns commands
  exact ⟨hrun, hincreasing, hnodup, hsublist, by decide +kernel, by decide +kernel⟩

end Refinement

end DirectionField.Proofs
