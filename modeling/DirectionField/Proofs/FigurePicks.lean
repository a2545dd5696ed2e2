import DirectionField.Pick
import DirectionField.Proofs.RunExtent

/-!
# Picks on the figure of a slope field

The traces of a figure are told apart by their places alone. The markers on the samples have theirs
before any curve, and each curve has two places of its own, so a pick that counts is one on a sample
whatever else is picked.
-/

namespace DirectionField.Proofs

/-! ## The traces of the figure -/

section Pairs

variable {β γ : Type} (f g : β → γ)

lemma getElem?_pairs (l : List β) (j : ℕ) :
    (l.flatMap fun b => [f b, g b])[2 * j]? = l[j]?.map f ∧
      (l.flatMap fun b => [f b, g b])[2 * j + 1]? = l[j]?.map g := by
  induction l generalizing j with
  | nil => simp
  | cons b l ih =>
    cases j with
    | zero => simp
    | succ j =>
      simpa [Nat.mul_succ] using ih j

lemma length_pairs (l : List β) : (l.flatMap fun b => [f b, g b]).length = 2 * l.length := by
  simp [List.length_flatMap, Nat.mul_comm]

end Pairs

section Figures

variable {α : Type}

/-- The colour of a curve in a palette that is used in turn. -/
def HasColor (palette : List String) (c : Curve α) (color : String) : Prop :=
  palette[(c.colorIndex % palette.length).toNat]? = some color

/-- The trace is a line of this colour through the points, in their order. -/
structure IsLine (t : Trace α) (points : List (Point α)) (color : String) : Prop where
  mode : t.mode = .lines
  points : t.points = .ofPoints points
  color : t.line.bind (·.color) = some color

/-- The trace is a marker of this colour on the point. -/
structure IsMarker (t : Trace α) (p : Point α) (color : String) : Prop where
  mode : t.mode = .markers
  points : t.points = .ofPoints [p]
  color : t.marker.bind (·.color) = some color

/-- A figure with the markers on the samples in their place, and behind them a line and a marker on
the seed for every curve. -/
structure ShowsField (samples : List (Sample α)) (curves : List (Curve α)) (palette : List String)
    (fig : Figure α) : Prop where
  count : fig.traces.length = 2 + 2 * curves.length
  grid : ∃ t, fig.traces[Figure.gridTrace]? = some t ∧ t.mode = .markers ∧
    t.points = .ofPoints (samples.map fun s => ⟨s.x, s.y⟩)
  curve : ∀ j c, curves[j]? = some c → ∃ color line seed, HasColor palette c color ∧
    fig.traces[2 + 2 * j]? = some line ∧ IsLine line c.points color ∧
    fig.traces[3 + 2 * j]? = some seed ∧ IsMarker seed c.seed color

lemma exists_hasColor {palette : List String} (h : palette ≠ []) (c : Curve α) :
    ∃ color, HasColor palette c color := by
  have hpos : (0 : ℤ) < palette.length := by
    exact_mod_cast List.length_pos_of_ne_nil h
  have hlt := Int.emod_lt_of_pos c.colorIndex hpos
  have hnonneg := Int.emod_nonneg c.colorIndex hpos.ne'
  exact ⟨_, List.getElem?_eq_getElem (by omega)⟩

variable [Arithmetic α] [Trigonometry α] (samples : List (Sample α)) (r : Grid.Rectangle α)
  (curves : List (Curve α)) {palette : List String}

/-- The figure, in a colour for each curve. -/
lemma slopeField_of_colors {color : Curve α → String} (h : ∀ c, HasColor palette c (color c)) :
    ∃ fig, Figure.slopeField samples r curves palette = .ok fig ∧
      fig.traces = Figure.arrowTrace samples (Figure.arrowLength r samples.length) ::
        Figure.sampleTrace samples ::
          curves.flatMap fun c => [Figure.curveTrace (color c) c, Figure.seedTrace (color c) c] := by
  have hcolor (c : Curve α) : Figure.color palette c = .ok (color c) := by
    have hc := h c
    unfold HasColor at hc
    rw [Figure.color, hc]
  have hdrawn : (curves.mapM fun c => do
      let s ← Figure.color palette c
      return [Figure.curveTrace s c, Figure.seedTrace s c]) =
        .ok (curves.map fun c =>
          [Figure.curveTrace (color c) c, Figure.seedTrace (color c) c]) := by
    simp only [hcolor]
    exact List.mapM_pure
  unfold Figure.slopeField
  rw [hdrawn]
  exact ⟨_, rfl, rfl⟩

lemma slopeField_shows (h : palette ≠ []) :
    ∃ fig, Figure.slopeField samples r curves palette = .ok fig ∧
      ShowsField samples curves palette fig := by
  choose color hcolor using exists_hasColor (α := α) h
  obtain ⟨fig, hfig, htraces⟩ := slopeField_of_colors samples r curves hcolor
  refine ⟨fig, hfig, ?_⟩
  constructor
  case count =>
    rw [htraces, List.length_cons, List.length_cons, length_pairs]
    omega
  case grid =>
    refine ⟨Figure.sampleTrace samples, by rw [htraces]; rfl, rfl, ?_⟩
    simp [Figure.sampleTrace, Polyline.ofPoints]
  case curve =>
    intro j c hc
    obtain ⟨hline, hseed⟩ := getElem?_pairs (fun c => Figure.curveTrace (color c) c)
      (fun c => Figure.seedTrace (color c) c) curves j
    rw [hc] at hline hseed
    -- the two traces in front of the curves move theirs by two places
    have hbehind (i : ℕ) : fig.traces[i + 2]? =
        (curves.flatMap fun c =>
          [Figure.curveTrace (color c) c, Figure.seedTrace (color c) c])[i]? := by
      rw [htraces]
      rfl
    refine ⟨color c, Figure.curveTrace (color c) c, Figure.seedTrace (color c) c, hcolor c,
      ?_, ⟨rfl, rfl, rfl⟩, ?_, ⟨rfl, rfl, rfl⟩⟩
    · rw [Nat.add_comm, hbehind, hline]
      rfl
    · rw [show 3 + 2 * j = 2 * j + 1 + 2 by omega, hbehind, hseed]
      rfl

end Figures

/-! ## Selections -/

section Selections

variable {α : Type} [Numeral α]

/-- A picked point: what is told about it, and the trace and the place there that it has. -/
structure PickEvent (α : Type) where
  fields : List (String × Datum α)
  trace : ℕ
  place : ℕ

namespace PickEvent

/-- What is told under a name. -/
def get (e : PickEvent α) (name : String) : Datum α := (e.fields.lookup name).getD .missing

/-- The datum gives the coordinate; in a gap there is none. -/
def Gives (d : Datum α) : Option α → Prop
  | some v => d.toNumber = .ok v
  | none => d.isMissing = true

/-- The event tells the number of its trace and the coordinates of its point in the figure. -/
structure IsOn (e : PickEvent α) (fig : Figure α) : Prop where
  number : (e.get "curve_number").exactValue? = some (.finite e.trace)
  point : ∃ t x y, fig.traces[e.trace]? = some t ∧ t.points.xs[e.place]? = some x ∧
    t.points.ys[e.place]? = some y ∧ Gives (e.get "x") x ∧ Gives (e.get "y") y

end PickEvent

/-- The selection of some events, in their order. -/
def selection (events : List (PickEvent α)) : Datum α :=
  .list (events.map fun e => .record e.fields)

lemma isMissing_of_toNumber {d : Datum α} {v : α} (h : d.toNumber = .ok v) :
    d.isMissing = false := by
  cases d <;> first | rfl | simp [Datum.toNumber, Datum.whole?] at h

variable {samples : List (Sample α)} {curves : List (Curve α)} {palette : List String}
  {fig : Figure α} {e : PickEvent α}

lemma PickEvent.IsOn.isEqual_iff (he : e.IsOn fig) :
    (e.get "curve_number").isEqual (.whole Figure.gridTrace) = true ↔
      e.trace = Figure.gridTrace := by
  rw [isEqual_whole_iff, he.number, Option.some.injEq, Extended.finite.injEq, Int.cast_natCast,
    Nat.cast_inj]

/-- An event on the trace of the samples is one on the sample in its place. -/
lemma sample_of_isOn (hfig : ShowsField samples curves palette fig) (he : e.IsOn fig)
    (hgrid : e.trace = Figure.gridTrace) :
    ∃ s, samples[e.place]? = some s ∧ (e.get "x").toNumber = .ok s.x ∧
      (e.get "y").toNumber = .ok s.y := by
  obtain ⟨t, x, y, ht, hx, hy, hgx, hgy⟩ := he.point
  obtain ⟨t', ht', -, hpoints⟩ := hfig.grid
  have htrace : t = t' := by
    rw [hgrid, ht'] at ht
    exact (Option.some.inj ht).symm
  rw [htrace, hpoints] at hx hy
  simp only [Polyline.ofPoints, List.map_map, List.getElem?_map, Option.map_eq_some_iff] at hx hy
  obtain ⟨s, hs, rfl⟩ := hx
  obtain ⟨s', hs', rfl⟩ := hy
  obtain rfl : s = s' := Option.some.inj (hs.symm.trans hs')
  exact ⟨s, hs, hgx, hgy⟩

lemma ofFields_of_grid (he : e.IsOn fig) (hgrid : e.trace = Figure.gridTrace) {p : Point α}
    (hx : (e.get "x").toNumber = .ok p.x) (hy : (e.get "y").toNumber = .ok p.y) :
    Pick.ofFields e.fields = .ok (some p) := by
  have hnumber : (e.get "curve_number").isEqual (.whole Figure.gridTrace) = true :=
    he.isEqual_iff.mpr hgrid
  have hxGiven := isMissing_of_toNumber hx
  have hyGiven := isMissing_of_toNumber hy
  unfold PickEvent.get at *
  simp [Pick.ofFields, hnumber, hxGiven, hyGiven, hx, hy, Bind.bind, Except.bind, Pure.pure,
    Except.pure]

lemma ofFields_of_other (he : e.IsOn fig) (hother : e.trace ≠ Figure.gridTrace) :
    Pick.ofFields e.fields = .ok none := by
  have hnumber : ¬ (e.get "curve_number").isEqual (.whole Figure.gridTrace) = true :=
    mt he.isEqual_iff.mp hother
  unfold PickEvent.get at hnumber
  simp [Pick.ofFields, hnumber]

lemma first_of_pick {p : Point α} (h : Pick.ofFields e.fields = .ok (some p))
    (rest : List (Datum α)) : Pick.first (.record e.fields :: rest) = .ok (some p) := by
  rw [Pick.first, h]
  rfl

/-- Events on other traces are passed over. -/
lemma first_append_others {others : List (PickEvent α)} (h : ∀ e ∈ others, e.IsOn fig)
    (hother : ∀ e ∈ others, e.trace ≠ Figure.gridTrace) (rest : List (Datum α)) :
    Pick.first ((others.map fun e => .record e.fields) ++ rest) = Pick.first rest := by
  induction others with
  | nil => rfl
  | cons e others ih =>
    have hnone := ofFields_of_other (h e List.mem_cons_self) (hother e List.mem_cons_self)
    rw [List.map_cons, List.cons_append, Pick.first, hnone]
    exact ih (fun e he => h e (List.mem_cons_of_mem _ he))
      fun e he => hother e (List.mem_cons_of_mem _ he)

lemma seed_selection (events : List (PickEvent α)) :
    Pick.seed (selection events) = Pick.first (events.map fun e => .record e.fields) := by
  cases events <;> rfl

lemma seed_of_others {events : List (PickEvent α)} (h : ∀ e ∈ events, e.IsOn fig)
    (hother : ∀ e ∈ events, e.trace ≠ Figure.gridTrace) :
    Pick.seed (selection events) = .ok none := by
  have hfirst := first_append_others h hother []
  rw [List.append_nil] at hfirst
  rw [seed_selection, hfirst, Pick.first]

lemma seed_of_grid {events : List (PickEvent α)} (hfig : ShowsField samples curves palette fig)
    (h : ∀ e ∈ events, e.IsOn fig)
    (hfind : events.find? (fun e => e.trace == Figure.gridTrace) = some e) :
    ∃ s, samples[e.place]? = some s ∧ (e.get "x").toNumber = .ok s.x ∧
      (e.get "y").toNumber = .ok s.y ∧ Pick.seed (selection events) = .ok (some ⟨s.x, s.y⟩) := by
  obtain ⟨hgrid, before, after, rfl, hbefore⟩ := List.find?_eq_some_iff_append.mp hfind
  rw [beq_iff_eq] at hgrid
  have he : e.IsOn fig := h e (by simp)
  obtain ⟨s, hs, hx, hy⟩ := sample_of_isOn hfig he hgrid
  refine ⟨s, hs, hx, hy, ?_⟩
  rw [seed_selection, List.map_append, List.map_cons, first_append_others]
  · exact first_of_pick (ofFields_of_grid he hgrid hx hy) _
  · exact fun e' he' => h e' (List.mem_append_left _ he')
  · intro e' he'
    simpa using hbefore e' he'

/-- With colours for the curves there is a figure, in which the samples, the curves and the seeds
have their places. A selection of points of this figure stands for the sample of its first event on
the samples, and for no seed exactly when there is no such event. -/
theorem picks_agree_with_figure [Trigonometry α] (samples : List (Sample α))
    (r : Grid.Rectangle α) (curves : List (Curve α)) {palette : List String}
    (hpalette : palette ≠ []) :
    ∃ fig, Figure.slopeField samples r curves palette = .ok fig ∧
      ShowsField samples curves palette fig ∧
      ∀ events : List (PickEvent α), (∀ e ∈ events, e.IsOn fig) →
        (∀ e, events.find? (fun e => e.trace == Figure.gridTrace) = some e →
          ∃ s, samples[e.place]? = some s ∧ (e.get "x").toNumber = .ok s.x ∧
            (e.get "y").toNumber = .ok s.y ∧
            Pick.seed (selection events) = .ok (some ⟨s.x, s.y⟩)) ∧
        (Pick.seed (selection events) = .ok none ↔
          ∀ e ∈ events, e.trace ≠ Figure.gridTrace) := by
  obtain ⟨fig, hresult, hfig⟩ := slopeField_shows samples r curves hpalette
  refine ⟨fig, hresult, hfig, ?_⟩
  intro events hevents
  refine ⟨fun e he => seed_of_grid hfig hevents he, ?_, seed_of_others hevents⟩
  intro hnone
  by_contra hsome
  push Not at hsome
  obtain ⟨e, he⟩ : ∃ e, events.find? (fun e => e.trace == Figure.gridTrace) = some e := by
    rw [← Option.isSome_iff_exists, List.find?_isSome]
    simpa using hsome
  obtain ⟨s, -, -, -, hseed⟩ := seed_of_grid hfig hevents he
  rw [hnone] at hseed
  cases hseed

end Selections

/-! ## Picks on an axis -/

def axisSamples : List (Sample Float) := [⟨0, 0, 1⟩, ⟨0, 1, 2⟩]

def axisCurve : Curve Float := ⟨1, ⟨0, 1⟩, [⟨0, 1⟩, ⟨1, 3⟩], -1, 0⟩

def axisRectangle : Grid.Rectangle Float := ⟨0, 1, 0, 1⟩

/-- A pick on the second point of the curve. -/
def curveEvent : PickEvent Float :=
  ⟨[("curve_number", .whole 2), ("x", .real 1), ("y", .real 3)], 2, 1⟩

/-- A pick on the sample at the origin. -/
def originEvent : PickEvent Float :=
  ⟨[("x", .real 0), ("y", .real 0), ("curve_number", .whole 1)], 1, 0⟩

/-- The origin is picked behind a point of a curve, which alone stands for no seed. -/
theorem picks_agree_with_figure_origin :
    ["red", "blue"] ≠ [] ∧
    ∃ fig, Figure.slopeField axisSamples axisRectangle [axisCurve] ["red", "blue"] = .ok fig ∧
      ShowsField axisSamples [axisCurve] ["red", "blue"] fig ∧
      curveEvent.IsOn fig ∧ originEvent.IsOn fig ∧
      Pick.seed (selection [curveEvent, originEvent, curveEvent]) = .ok (some ⟨0, 0⟩) ∧
      Pick.seed (selection [curveEvent]) = .ok none := by
  have hpalette : ["red", "blue"] ≠ [] := by decide
  obtain ⟨fig, hresult, hfig, hpicks⟩ :=
    picks_agree_with_figure axisSamples axisRectangle [axisCurve] hpalette
  obtain ⟨color, line, seed, -, hline, ⟨-, hpoints, -⟩, -⟩ := hfig.curve 0 axisCurve rfl
  obtain ⟨t, ht, -, hgrid⟩ := hfig.grid
  have hcurve : curveEvent.IsOn fig := by
    refine ⟨rfl, line, some 1, some 3, hline, ?_⟩
    rw [hpoints]
    exact ⟨rfl, rfl, rfl, rfl⟩
  have horigin : originEvent.IsOn fig := by
    refine ⟨rfl, t, some 0, some 0, ht, ?_⟩
    rw [hgrid]
    exact ⟨rfl, rfl, rfl, rfl⟩
  have hboth : ∀ e ∈ [curveEvent, originEvent, curveEvent], e.IsOn fig := by
    simp [hcurve, horigin]
  obtain ⟨s, hs, -, -, hseed⟩ := (hpicks _ hboth).1 originEvent rfl
  cases hs
  refine ⟨hpalette, fig, hresult, hfig, hcurve, horigin, hseed, ?_⟩
  refine (hpicks [curveEvent] (by simp [hcurve])).2.mpr ?_
  simp [curveEvent, Figure.gridTrace]

end DirectionField.Proofs
