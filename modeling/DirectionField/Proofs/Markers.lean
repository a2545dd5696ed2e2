import DirectionField.Proofs.EquationTexts

/-!
# Markers in front of equations

A marker is `dy/dx =` with any blanks between its parts. The body of a text is what follows the
marker that the text begins with, blanks before it included, and the whole text where it begins with
none; the blanks at both ends are left out. So just one marker is taken off, and none but the first.
-/

namespace DirectionField.Proofs

open Text (isBlank dropBlanks stripChars)
open Equation (after? afterMarker?)

/-! ## The grammar -/

def IsBlanks (cs : List Char) : Prop := ∀ c ∈ cs, isBlank c = true

/-- The four parts of `dy/dx =` with blanks between them. -/
inductive IsEquationMarker : List Char → Prop
  | parts {u v w : List Char} (hu : IsBlanks u) (hv : IsBlanks v) (hw : IsBlanks w) :
      IsEquationMarker (['d', 'y'] ++ (u ++ (['/'] ++ (v ++ (['d', 'x'] ++ (w ++ ['=']))))))

/-- The text is a marker `k` with blanks `w` in front of it and the rest `r` behind it. -/
structure IsMarked (cs w k r : List Char) : Prop where
  blanks : IsBlanks w
  marker : IsEquationMarker k
  eq : cs = w ++ (k ++ r)

/-- What is left of a text without the blanks at both ends. -/
structure IsStripOf (cs b : List Char) : Prop where
  stripped : IsStripped b
  eq : ∃ p q, IsBlanks p ∧ IsBlanks q ∧ cs = p ++ (b ++ q)

/-! ## Blanks -/

section Blanks

variable {p q r t w cs b : List Char} {c : Char}

lemma notMem_of_isBlanks (hc : isBlank c = false) (hw : IsBlanks w) : c ∉ w := by
  intro hmem
  rw [hw c hmem] at hc
  cases hc

lemma isBlanks_takeWhile (cs : List Char) : IsBlanks (cs.takeWhile isBlank) :=
  fun _ => List.mem_takeWhile_imp

lemma dropBlanks_append (hw : IsBlanks w) (cs : List Char) :
    dropBlanks (w ++ cs) = dropBlanks cs :=
  List.dropWhile_append_of_pos hw

lemma rdropWhile_append_blanks (hq : IsBlanks q) (cs : List Char) :
    (cs ++ q).rdropWhile isBlank = cs.rdropWhile isBlank := by
  have hreverse : IsBlanks q.reverse := fun c hc => hq c (List.mem_reverse.mp hc)
  rw [List.rdropWhile, List.reverse_append, List.dropWhile_append_of_pos hreverse, List.rdropWhile]

lemma stripChars_append_left (hp : IsBlanks p) (cs : List Char) :
    stripChars (p ++ cs) = stripChars cs := by
  rw [stripChars, stripChars, dropBlanks_append hp]

lemma stripChars_append_right (hq : IsBlanks q) (cs : List Char) :
    stripChars (cs ++ q) = stripChars cs := by
  rw [stripChars_eq_rdropWhile, stripChars_eq_rdropWhile, List.dropWhile_append]
  split
  case isTrue hempty =>
    have hdrop : q.dropWhile isBlank = [] := List.dropWhile_eq_nil_iff.mpr hq
    rw [hdrop, List.isEmpty_iff.mp hempty]
  case isFalse => exact rdropWhile_append_blanks hq _

lemma isStripOf_iff : IsStripOf cs b ↔ stripChars cs = b := by
  constructor
  · rintro ⟨hb, p, q, hp, hq, rfl⟩
    rw [stripChars_append_left hp, stripChars_append_right hq, stripChars_of_isStripped hb]
  · rintro rfl
    refine ⟨isStripped_stripChars cs, cs.takeWhile isBlank, (dropBlanks cs).rtakeWhile isBlank,
      isBlanks_takeWhile cs, fun _ => List.mem_rtakeWhile_imp, ?_⟩
    rw [stripChars_eq_rdropWhile, dropBlanks, List.rdropWhile_append_rtakeWhile,
      List.takeWhile_append_dropWhile]

/-- Blanks at the end of a text are no part of what ends in another character. -/
lemma exists_rest_of_append_blanks (hc : isBlank c = false) (hq : IsBlanks q)
    (h : (t ++ [c]) ++ r = cs ++ q) : ∃ r', cs = (t ++ [c]) ++ r' ∧ r = r' ++ q := by
  rcases List.append_eq_append_iff.mp h with ⟨r', hcs, hr⟩ | ⟨e, ht, he⟩
  · exact ⟨r', hcs, hr⟩
  · rcases List.eq_nil_or_concat e with rfl | ⟨e', d, rfl⟩
    · rw [List.append_nil] at ht
      rw [List.nil_append] at he
      exact ⟨[], by rw [ht, List.append_nil], he.symm⟩
    · rw [List.concat_eq_append, ← List.append_assoc] at ht
      have hlast : c = d := (List.append_inj' ht rfl).2 |> List.singleton_inj.mp
      refine absurd ?_ (notMem_of_isBlanks hc hq)
      rw [he, hlast]
      simp

end Blanks

/-! ## Markers -/

section Markers

variable {p r w k cs : List Char}

/-- A part of a marker is found behind blanks, as it does not begin with one. -/
lemma after?_eq_some_iff {c : Char} (hc : isBlank c = false) :
    after? (c :: p) cs = some r ↔ ∃ w, IsBlanks w ∧ cs = w ++ (c :: p ++ r) := by
  rw [after?, List.isPrefixOf?_eq_some_iff_append_eq]
  constructor
  · intro h
    refine ⟨cs.takeWhile isBlank, isBlanks_takeWhile cs, ?_⟩
    rw [h, dropBlanks, List.takeWhile_append_dropWhile]
  · rintro ⟨w, hw, rfl⟩
    rw [dropBlanks_append hw, dropBlanks, List.cons_append, List.dropWhile_cons, hc,
      if_neg Bool.false_ne_true]

lemma afterMarker?_eq_some_iff : afterMarker? cs = some r ↔ ∃ w k, IsMarked cs w k r := by
  have hd : isBlank 'd' = false := by decide
  have hslash : isBlank '/' = false := by decide
  have heq : isBlank '=' = false := by decide
  simp only [afterMarker?, Option.bind_eq_bind, Option.bind_eq_some_iff, after?_eq_some_iff hd,
    after?_eq_some_iff hslash, after?_eq_some_iff heq]
  constructor
  · rintro ⟨_, ⟨t, ht, rfl⟩, _, ⟨u, hu, rfl⟩, _, ⟨v, hv, rfl⟩, w, hw, rfl⟩
    exact ⟨t, _, ht, .parts hu hv hw, by simp⟩
  · rintro ⟨t, _, ht, @⟨u, v, w, hu, hv, hw⟩, rfl⟩
    refine ⟨_, ⟨t, ht, ?_⟩, _, ⟨u, hu, rfl⟩, _, ⟨v, hv, rfl⟩, w, hw, rfl⟩
    simp

lemma IsMarked.rest_eq {w' k' r' : List Char} (h : IsMarked cs w k r)
    (h' : IsMarked cs w' k' r') : r = r' := by
  have hr := afterMarker?_eq_some_iff.mpr ⟨w, k, h⟩
  rw [afterMarker?_eq_some_iff.mpr ⟨w', k', h'⟩] at hr
  exact (Option.some.inj hr).symm

lemma IsMarked.bodyChars_eq (h : IsMarked cs w k r) : Equation.bodyChars cs = stripChars r := by
  rw [Equation.bodyChars, afterMarker?_eq_some_iff.mpr ⟨w, k, h⟩, Option.getD_some]

lemma bodyChars_of_unmarked (h : ∀ w k r, ¬ IsMarked cs w k r) :
    Equation.bodyChars cs = stripChars cs := by
  have hnone : afterMarker? cs = none := by
    rw [Option.eq_none_iff_forall_ne_some]
    intro r hr
    obtain ⟨w, k, hmarked⟩ := afterMarker?_eq_some_iff.mp hr
    exact h w k r hmarked
  rw [Equation.bodyChars, hnone, Option.getD_none]

end Markers

/-! ## Places of markers -/

section Places

variable {p q r u w k b cs : List Char} {c : Char}

lemma IsEquationMarker.exists_parts (hk : IsEquationMarker k) :
    ∃ u v, 'd' ∉ u ∧ 'd' ∉ v ∧ k = 'd' :: 'y' :: (u ++ 'd' :: 'x' :: (v ++ ['='])) := by
  have hd : isBlank 'd' = false := by decide
  obtain @⟨u, v, w, hu, hv, hw⟩ := hk
  have hu' := notMem_of_isBlanks hd hu
  have hv' := notMem_of_isBlanks hd hv
  exact ⟨u ++ '/' :: v, w, by simp [hu', hv'], notMem_of_isBlanks hd hw, by simp⟩

lemma IsEquationMarker.exists_end (hk : IsEquationMarker k) : ∃ t, k = t ++ ['='] := by
  obtain ⟨u, v, -, -, rfl⟩ := hk.exists_parts
  exact ⟨'d' :: 'y' :: (u ++ 'd' :: 'x' :: v), by simp⟩

/-- A marker begins here, without blanks in front of it. -/
def BeginsWithMarker (cs : List Char) : Prop := ∃ k r, IsEquationMarker k ∧ cs = k ++ r

lemma BeginsWithMarker.exists_tail (h : BeginsWithMarker cs) : ∃ t, cs = 'd' :: 'y' :: t := by
  obtain ⟨k, r, hk, rfl⟩ := h
  obtain ⟨u, v, -, -, rfl⟩ := hk.exists_parts
  exact ⟨_, rfl⟩

lemma beginsWithMarker_iff :
    cs.head? = some 'd' ∧ (Equation.afterMarker? cs).isSome = true ↔ BeginsWithMarker cs := by
  simp only [Option.isSome_iff_exists, afterMarker?_eq_some_iff]
  constructor
  · rintro ⟨hfirst, r, w, k, hw, hk, rfl⟩
    cases w with
    | nil => exact ⟨k, r, hk, rfl⟩
    | cons c w =>
      cases Option.some.inj hfirst
      exact absurd List.mem_cons_self (notMem_of_isBlanks (by decide) hw)
  · intro h
    obtain ⟨t, ht⟩ := h.exists_tail
    obtain ⟨k, r, hk, hcs⟩ := h
    exact ⟨by rw [ht]; rfl, r, [], k, fun _ h => absurd h List.not_mem_nil, hk, hcs⟩

instance (cs : List Char) : Decidable (BeginsWithMarker cs) :=
  decidable_of_iff _ beginsWithMarker_iff

/-- At how many places of a text a marker begins. -/
def markerCount : List Char → ℕ
  | [] => 0
  | c :: cs => (if BeginsWithMarker (c :: cs) then 1 else 0) + markerCount cs

lemma markerCount_append_of_notMem (hu : 'd' ∉ u) (cs : List Char) :
    markerCount (u ++ cs) = markerCount cs := by
  induction u with
  | nil => rfl
  | cons c u ih =>
    rw [List.mem_cons, not_or] at hu
    have hno : ¬ BeginsWithMarker (c :: (u ++ cs)) := by
      intro h
      obtain ⟨t, ht⟩ := h.exists_tail
      exact hu.1 (List.cons.inj ht).1.symm
    rw [List.cons_append, markerCount, if_neg hno, ih hu.2, Nat.zero_add]

/-- No marker begins inside another one. -/
lemma IsEquationMarker.not_beginsWithMarker (hk : IsEquationMarker (p ++ q)) (hp : p ≠ [])
    (hq : q ≠ []) (r : List Char) : ¬ BeginsWithMarker (q ++ r) := by
  obtain ⟨u, v, hu, hv, hpq⟩ := hk.exists_parts
  intro h
  obtain ⟨t, ht⟩ := h.exists_tail
  obtain ⟨c, p, rfl⟩ := List.exists_cons_of_ne_nil hp
  obtain ⟨d, q, rfl⟩ := List.exists_cons_of_ne_nil hq
  obtain ⟨rfl, htail⟩ := List.cons.inj ht
  have hsplit : ('y' :: u) ++ 'd' :: ('x' :: (v ++ ['='])) = p ++ 'd' :: q :=
    (List.cons.inj hpq).2.symm
  -- the only other `d` of the marker is followed by `x`
  obtain ⟨-, -, rfl⟩ := (List.append_cons_inj_of_notMem (by simp [hu]) (by simp [hv])).mp hsplit
  exact absurd (List.cons.inj htail).1 (by decide)

lemma markerCount_marker (hk : IsEquationMarker k) (r : List Char) :
    markerCount (k ++ r) = 1 + markerCount r := by
  have hbegins : BeginsWithMarker (k ++ r) := ⟨k, r, hk, rfl⟩
  obtain ⟨u, v, hu, hv, rfl⟩ := hk.exists_parts
  have hsecond : ¬ BeginsWithMarker ('d' :: ('x' :: (v ++ ['=']) ++ r)) :=
    hk.not_beginsWithMarker (p := 'd' :: 'y' :: u) (List.cons_ne_nil _ _) (List.cons_ne_nil _ _) r
  calc markerCount ('d' :: 'y' :: (u ++ 'd' :: 'x' :: (v ++ ['='])) ++ r)
      = 1 + markerCount ('y' :: (u ++ 'd' :: 'x' :: (v ++ ['='])) ++ r) := by
        rw [List.cons_append] at hbegins ⊢
        rw [markerCount, if_pos hbegins]
    _ = 1 + markerCount (('y' :: u) ++ 'd' :: ('x' :: (v ++ ['=']) ++ r)) := by simp
    _ = 1 + markerCount ('x' :: (v ++ ['=']) ++ r) := by
        rw [markerCount_append_of_notMem (by simp [hu]), markerCount, if_neg hsecond, Nat.zero_add]
    _ = 1 + markerCount r := by rw [markerCount_append_of_notMem (by simp [hv])]

lemma beginsWithMarker_append_blanks (hq : IsBlanks q) :
    BeginsWithMarker (cs ++ q) ↔ BeginsWithMarker cs := by
  constructor
  · rintro ⟨k, r, hk, h⟩
    obtain ⟨t, rfl⟩ := hk.exists_end
    obtain ⟨r', rfl, -⟩ := exists_rest_of_append_blanks (by decide) hq h.symm
    exact ⟨_, r', hk, rfl⟩
  · rintro ⟨k, r, hk, rfl⟩
    exact ⟨k, r ++ q, hk, List.append_assoc ..⟩

lemma markerCount_append_blanks (hq : IsBlanks q) (cs : List Char) :
    markerCount (cs ++ q) = markerCount cs := by
  induction cs with
  | nil =>
    have hcount := markerCount_append_of_notMem (notMem_of_isBlanks (by decide) hq) []
    rwa [List.append_nil] at hcount
  | cons c cs ih =>
    have hbegins : BeginsWithMarker (c :: cs ++ q) ↔ BeginsWithMarker (c :: cs) :=
      beginsWithMarker_append_blanks hq
    rw [List.cons_append] at hbegins ⊢
    simp only [markerCount, hbegins, ih]

lemma IsStripOf.markerCount_eq (h : IsStripOf cs b) : markerCount b = markerCount cs := by
  obtain ⟨-, p, q, hp, hq, rfl⟩ := h
  rw [markerCount_append_of_notMem (notMem_of_isBlanks (by decide) hp),
    markerCount_append_blanks hq]

/-- Between the blanks at the ends of a text every marker stays. -/
lemma IsStripOf.keeps_marker (h : IsStripOf (p ++ (k ++ r)) b) (hk : IsEquationMarker k) :
    ∃ p' r', b = p' ++ (k ++ r') ∧ p' <:+ p ∧ r' <+: r := by
  obtain ⟨-, blanks, q, hblanks, hq, h⟩ := h
  have hfront : ∃ p', p = blanks ++ p' ∧ (p' ++ k) ++ r = b ++ q := by
    rcases List.append_eq_append_iff.mp h with ⟨a, ha, hrest⟩ | ⟨p', hp, hrest⟩
    · cases a with
      | nil => exact ⟨[], by rw [ha, List.append_nil, List.append_nil], hrest⟩
      | cons c a =>
        obtain ⟨u, v, -, -, rfl⟩ := hk.exists_parts
        obtain ⟨rfl, -⟩ := List.cons.inj hrest
        have hd : 'd' ∉ blanks := notMem_of_isBlanks (by decide) hblanks
        rw [ha] at hd
        exact absurd (List.mem_append_right _ List.mem_cons_self) hd
    · exact ⟨p', hp, by rw [hrest, List.append_assoc]⟩
  obtain ⟨p', rfl, hrest⟩ := hfront
  obtain ⟨t, rfl⟩ := hk.exists_end
  rw [← List.append_assoc] at hrest
  obtain ⟨r', rfl, rfl⟩ := exists_rest_of_append_blanks (by decide) hq hrest
  exact ⟨p', r', by simp, List.suffix_append blanks p', List.prefix_append r' q⟩

/-- A marker at another place than the start lies behind the marker at the start. -/
lemma IsMarked.exists_between {k' r' : List Char} (h : IsMarked (p ++ (k' ++ r')) w k r)
    (hk' : IsEquationMarker k') (hp : ¬ IsBlanks p) :
    ∃ p', p = w ++ (k ++ p') ∧ r = p' ++ (k' ++ r') := by
  rcases List.append_eq_append_iff.mp h.eq with ⟨a, hw, -⟩ | ⟨p₁, rfl, hrest⟩
  · exact absurd (fun c hc => h.blanks c (hw ▸ List.mem_append_left a hc)) hp
  · rcases List.append_eq_append_iff.mp hrest with ⟨p', rfl, hr⟩ | ⟨a, rfl, ha⟩
    · exact ⟨p', rfl, hr⟩
    · rcases eq_or_ne a [] with rfl | hne
      · exact ⟨[], by simp, by simpa using ha.symm⟩
      · have hp₁ : p₁ ≠ [] := by
          rintro rfl
          exact hp (by simpa using h.blanks)
        exact absurd ⟨k', r', hk', ha.symm⟩ (h.marker.not_beginsWithMarker hp₁ hne r)

end Places

/-- The body of a text that begins with a marker is the rest behind it, and that of any other text
is the whole text, without the blanks at both ends. It has one marker less than a text that begins
with one, and otherwise as many; a marker that has more than blanks in front of it stays. -/
theorem first_marker_is_removed (s : String) :
    (∀ w k r w' k' r', IsMarked s.toList w k r → IsMarked s.toList w' k' r' → r = r') ∧
    (∀ w k r, IsMarked s.toList w k r → IsStripOf r (Equation.body (some s)).toList ∧
      1 + markerCount (Equation.body (some s)).toList = markerCount s.toList) ∧
    ((∀ w k r, ¬ IsMarked s.toList w k r) → IsStripOf s.toList (Equation.body (some s)).toList ∧
      markerCount (Equation.body (some s)).toList = markerCount s.toList) ∧
    ∀ p k r, IsEquationMarker k → s.toList = p ++ (k ++ r) → ¬ IsBlanks p →
      ∃ p' r', (Equation.body (some s)).toList = p' ++ (k ++ r') ∧ p' <:+ p ∧ r' <+: r := by
  have hbody : (Equation.body (some s)).toList = Equation.bodyChars s.toList :=
    String.toList_ofList
  have hmarked {w k r : List Char} (h : IsMarked s.toList w k r) :
      IsStripOf r (Equation.body (some s)).toList :=
    isStripOf_iff.mpr (by rw [hbody, h.bodyChars_eq])
  have hunmarked (h : ∀ w k r, ¬ IsMarked s.toList w k r) :
      IsStripOf s.toList (Equation.body (some s)).toList :=
    isStripOf_iff.mpr (by rw [hbody, bodyChars_of_unmarked h])
  refine ⟨fun w k r w' k' r' h h' => h.rest_eq h', ?_, ?_, ?_⟩
  · intro w k r h
    refine ⟨hmarked h, ?_⟩
    rw [(hmarked h).markerCount_eq, ← markerCount_marker h.marker, h.eq,
      markerCount_append_of_notMem (notMem_of_isBlanks (by decide) h.blanks)]
  · intro h
    exact ⟨hunmarked h, (hunmarked h).markerCount_eq⟩
  · intro p k r hk hs hp
    by_cases hexists : ∃ w k' r', IsMarked s.toList w k' r'
    · obtain ⟨w, k', r', h⟩ := hexists
      have hstrip := hmarked h
      rw [hs] at h
      obtain ⟨between, rfl, rfl⟩ := h.exists_between hk hp
      obtain ⟨p', r'', hb, hp', hr'⟩ := hstrip.keeps_marker hk
      refine ⟨p', r'', hb, hp'.trans ?_, hr'⟩
      rw [← List.append_assoc]
      exact List.suffix_append _ _
    · simp only [not_exists] at hexists
      have hstrip := hunmarked hexists
      rw [hs] at hstrip
      exact hstrip.keeps_marker hk

/-- Two markers, the first with blanks of several kinds: the second one stays. -/
theorem first_marker_is_removed_once :
    let s := "\t dy /\u00a0dx\n= dy/dx=x "
    IsMarked s.toList ['\t', ' '] "dy /\u00a0dx\n=".toList " dy/dx=x ".toList ∧
    IsStripOf " dy/dx=x ".toList (Equation.body (some s)).toList ∧
    1 + markerCount (Equation.body (some s)).toList = 2 ∧
    IsEquationMarker "dy/dx=".toList ∧
    ∃ p r, (Equation.body (some s)).toList = p ++ ("dy/dx=".toList ++ r) ∧ r <+: ['x', ' '] := by
  intro s
  have hnone : IsBlanks [] := fun _ h => absurd h List.not_mem_nil
  have hmarker : IsEquationMarker "dy/dx=".toList := .parts hnone hnone hnone
  have hmarked : IsMarked s.toList ['\t', ' '] "dy /\u00a0dx\n=".toList " dy/dx=x ".toList := by
    have hspace : IsBlanks [' '] := List.all_eq_true.mp rfl
    have hwide : IsBlanks ['\u00a0'] := List.all_eq_true.mp rfl
    have hline : IsBlanks ['\n'] := List.all_eq_true.mp rfl
    exact ⟨List.all_eq_true.mp rfl, .parts hspace hwide hline, by decide +kernel⟩
  obtain ⟨-, hstart, -, helsewhere⟩ := first_marker_is_removed s
  obtain ⟨hstrip, hcount⟩ := hstart _ _ _ hmarked
  have htwo : markerCount s.toList = 2 := by decide +kernel
  obtain ⟨p, r, hbody, -, hr⟩ := helsewhere "\t dy /\u00a0dx\n= ".toList "dy/dx=".toList ['x', ' ']
    hmarker (by decide +kernel) (fun h => absurd (h 'd' (by decide +kernel)) (by decide))
  exact ⟨hmarked, hstrip, hcount.trans htwo, hmarker, p, r, hbody, hr⟩

end DirectionField.Proofs
