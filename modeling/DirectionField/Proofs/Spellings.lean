import DirectionField.Proofs.Markers
import DirectionField.Proofs.PlainOperators
import DirectionField.Proofs.TotalSlopes

/-!
# Spellings of one equation

An equation has many spellings: blanks in its marker, operators that look alike, and two ways to
write a power. They are read as one formula and have one raw slope. But where the slope is flat next
to the zeros of a coordinate depends on the text of the body as it was given, and so it may be flat
in one spelling only.
-/

namespace DirectionField.Proofs

open Equation (lookAlikes plainChars plainOperators starPowers)
open Text (isBlank dropBlanks stripChars)

/-! ## Plain spelling -/

/-- A character and the plain text that it stands for. -/
inductive CharSpells : Char → List Char → Prop
  | ordinary {c : Char} (hpower : c ≠ '^') (hother : ∀ entry ∈ lookAlikes, c ∉ entry.2) :
      CharSpells c [c]
  | operator {c p : Char} {others : List Char} (hentry : (p, others) ∈ lookAlikes)
      (hpower : p ≠ '^') (hc : c ∈ others) : CharSpells c [p]
  | power {c : Char} (hc : c = '^' ∨ c = '＾') : CharSpells c ['*', '*']

/-- A text and the plain text that it spells. -/
inductive Spells : List Char → List Char → Prop
  | nil : Spells [] []
  | cons {c : Char} {p cs ps : List Char} (hc : CharSpells c p) (hcs : Spells cs ps) :
      Spells (c :: cs) (p ++ ps)

section Plain

variable {c : Char} {p cs ds ps : List Char}

lemma plainChars_of_lookAlike : ∀ entry ∈ lookAlikes, ∀ c ∈ entry.2,
    plainChars [c] = if entry.1 = '^' then ['*', '*'] else [entry.1] := by
  simp [plainChars, plainOperators, lookAlikes, Equation.replace, starPowers]

lemma CharSpells.eq (h : CharSpells c p) : plainChars [c] = p := by
  cases h with
  | ordinary hpower hother =>
    rw [plainChars_singleton, plainSign_of_isPlain ⟨hpower, hother⟩]
  | operator hentry hpower hc => rw [plainChars_of_lookAlike _ hentry _ hc, if_neg hpower]
  | power hc => rcases hc with rfl | rfl <;> decide

lemma CharSpells.ne_nil (h : CharSpells c p) : p ≠ [] := by
  cases h <;> exact List.cons_ne_nil _ _

lemma exists_charSpells (c : Char) : ∃ p, CharSpells c p := by
  by_cases hother : ∀ entry ∈ lookAlikes, c ∉ entry.2
  · by_cases hpower : c = '^'
    · exact ⟨_, .power (.inl hpower)⟩
    · exact ⟨_, .ordinary hpower hother⟩
  · simp only [not_forall, not_not] at hother
    obtain ⟨⟨p, others⟩, hentry, hc⟩ := hother
    by_cases hpower : p = '^'
    · subst hpower
      have hcaret : ∀ entry ∈ lookAlikes, entry.1 = '^' → entry.2 = ['＾'] := by decide
      have hothers : others = ['＾'] := hcaret _ hentry rfl
      rw [hothers, List.mem_singleton] at hc
      exact ⟨_, .power (.inr hc)⟩
    · exact ⟨_, .operator hentry hpower hc⟩

lemma charSpells_plainChars (c : Char) : CharSpells c (plainChars [c]) := by
  obtain ⟨p, hp⟩ := exists_charSpells c
  rwa [hp.eq]

/-- The plain spelling of a text is the one text that it spells. -/
lemma spells_iff : Spells cs ps ↔ plainChars cs = ps := by
  constructor
  · intro h
    induction h with
    | nil => rfl
    | cons hc _ ih => rw [plainChars_cons, hc.eq, ih]
  · rintro rfl
    induction cs with
    | nil => exact .nil
    | cons c cs ih =>
      rw [plainChars_cons]
      exact .cons (charSpells_plainChars c) ih

/-! Blanks stand for themselves, and nothing else stands for one. -/

lemma plainChars_of_blank (hc : isBlank c = true) : plainChars [c] = [c] := by
  have hother : ∀ entry ∈ lookAlikes, ∀ d ∈ entry.2, isBlank d = false := by
    simp [lookAlikes, isBlank]
  refine CharSpells.eq (.ordinary ?_ ?_)
  · rintro rfl
    cases hc
  · intro entry hentry hmem
    rw [hother entry hentry c hmem] at hc
    cases hc

lemma exists_plainChars_of_not_blank (hc : isBlank c = false) :
    ∃ d ps, plainChars [c] = d :: ps ∧ isBlank d = false := by
  have hoperator : ∀ entry ∈ lookAlikes, isBlank entry.1 = false := by decide
  have hspells := charSpells_plainChars c
  generalize plainChars [c] = p at hspells ⊢
  cases hspells with
  | ordinary => exact ⟨c, [], rfl, hc⟩
  | operator hentry =>
    have hp := hoperator _ hentry
    exact ⟨_, [], rfl, hp⟩
  | power => exact ⟨'*', ['*'], rfl, by decide⟩

lemma plainChars_dropBlanks (cs : List Char) :
    plainChars (dropBlanks cs) = dropBlanks (plainChars cs) := by
  induction cs with
  | nil => rfl
  | cons c cs ih =>
    unfold dropBlanks at ih ⊢
    rw [plainChars_cons, List.dropWhile_cons]
    cases hc : isBlank c with
    | true => rw [if_pos rfl, ih, plainChars_of_blank hc, List.singleton_append,
        List.dropWhile_cons, if_pos hc]
    | false =>
      obtain ⟨d, ps, hps, hd⟩ := exists_plainChars_of_not_blank hc
      rw [if_neg Bool.false_ne_true, plainChars_cons, hps, List.cons_append, List.dropWhile_cons,
        hd, if_neg Bool.false_ne_true]

lemma plainChars_stripChars (cs : List Char) :
    plainChars (stripChars cs) = stripChars (plainChars cs) := by
  simp only [stripChars, plainChars_reverse, plainChars_dropBlanks]

lemma plainChars_eq_nil_iff : plainChars cs = [] ↔ cs = [] := by
  constructor
  · intro h
    cases cs with
    | nil => rfl
    | cons c cs =>
      rw [plainChars_cons, List.append_eq_nil_iff] at h
      exact absurd h.1 (charSpells_plainChars c).ne_nil
  · rintro rfl
    rfl

lemma plain_eq_empty_iff {s : String} : Equation.plain s = "" ↔ s = "" := by
  rw [Equation.plain, ← String.toList_inj, String.toList_ofList, ← String.toList_inj]
  exact plainChars_eq_nil_iff

/-- Behind a marker, the plain spelling of the body is what the rest spells, whatever the blanks in
the marker and at the ends. -/
lemma plain_body_of_spells {s : String} {w k r : List Char} (hs : IsMarked s.toList w k r)
    (hr : Spells r ps) :
    Equation.plain (Equation.body (some s)) = String.ofList (stripChars ps) := by
  rw [spells_iff] at hr
  rw [Equation.plain, Equation.body, String.toList_ofList, hs.bodyChars_eq, plainChars_stripChars,
    hr]

end Plain

/-! ## Slopes of two spellings -/

/-- Where the number is finite, it is at least `10⁻¹⁰` in size. -/
def IsAway (x : Float) : Prop := ∀ q : ℚ, Numeral.exact x = .finite q → 1 / 10 ^ 10 ≤ |q|

/-- Two slopes differ by nothing but the coordinates that their bodies divide by. -/
structure DifferByGuards (f g : Slope Float) : Prop where
  evaluate : ∀ x y, f.evaluate x y = g.evaluate x y
  away : ∀ x y, IsAway x → IsAway y → f.value x y = g.value x y
  guarded : ∀ x y, f.value x y ≠ g.value x y →
    (DividesByNearZero f.body x y ∧ ¬ DividesByNearZero g.body x y ∧ f.value x y = 0) ∨
      (¬ DividesByNearZero f.body x y ∧ DividesByNearZero g.body x y ∧ g.value x y = 0)

section Guards

variable {f g : Slope Float} {x y : Float}

lemma isAway_iff : IsAway x ↔ ¬ IsNearZero x := by
  simp only [IsAway, IsNearZero, not_exists, not_and, not_lt]

lemma not_dividesByNearZero_of_isAway (hx : IsAway x) (hy : IsAway y) (body : String) :
    ¬ DividesByNearZero body x y := by
  rw [isAway_iff] at hx hy
  rintro (⟨-, hnear⟩ | ⟨-, hnear⟩)
  · exact hy hnear
  · exact hx hnear

lemma differByGuards_of_compute (h : f.compute = g.compute) : DifferByGuards f g := by
  have hevaluate (x y : Float) : f.evaluate x y = g.evaluate x y := by
    rw [Slope.evaluate, Slope.evaluate, h]
  have hvalue {x y : Float} (hf : ¬ DividesByNearZero f.body x y)
      (hg : ¬ DividesByNearZero g.body x y) : f.value x y = g.value x y := by
    rw [value_of_not_near hf, value_of_not_near hg, hevaluate]
  refine ⟨hevaluate, ?_, ?_⟩
  · intro x y hx hy
    exact hvalue (not_dividesByNearZero_of_isAway hx hy _) (not_dividesByNearZero_of_isAway hx hy _)
  · intro x y hne
    by_cases hf : DividesByNearZero f.body x y
    · have hf0 := (totalAt f x y).guarded hf
      refine .inl ⟨hf, fun hg => hne ?_, hf0⟩
      rw [hf0, (totalAt g x y).guarded hg]
    · have hg : DividesByNearZero g.body x y := by
        by_contra hg
        exact hne (hvalue hf hg)
      exact .inr ⟨hf, hg, (totalAt g x y).guarded hg⟩

end Guards

/-- A body is looked at in plain spelling only. -/
lemma check_congr {ε α : Type} {C : Calculus ε α} {b b' : String}
    (h : Equation.plain b = Equation.plain b') : C.check b = C.check b' := by
  rw [Calculus.check, Calculus.check, h]

/-- Two texts whose bodies have the same plain spelling either both compile, or are rejected for the
same reason, or meet the same fault. If they compile, they have the same raw slope. Their slopes are
the same where no coordinate is nearly zero, and differ only where just one of the bodies divides by
a coordinate that is nearly zero; that one is flat there. -/
theorem spellings_differ_by_guards {ε : Type} (C : Calculus ε Float) {raw raw' : Option String}
    (h : Equation.plain (Equation.body raw) = Equation.plain (Equation.body raw')) :
    (∃ f g, C.compile raw = .ok f ∧ C.compile raw' = .ok g ∧ f.body = Equation.body raw ∧
      g.body = Equation.body raw' ∧ DifferByGuards f g) ∨
    (∃ err err', C.compile raw = .error (.rejected err) ∧
      C.compile raw' = .error (.rejected err') ∧ err.reason = err'.reason) ∨
    ∃ fault, C.compile raw = .error (.fault fault) ∧ C.compile raw' = .error (.fault fault) := by
  by_cases hbody : Equation.body raw = ""
  · have hbody' : Equation.body raw' = "" := by
      rwa [← plain_eq_empty_iff, ← h, plain_eq_empty_iff]
    exact .inr (.inl ⟨_, _, compile_of_empty hbody, compile_of_empty hbody', rfl⟩)
  · have hbody' : Equation.body raw' ≠ "" := by
      rwa [ne_eq, ← plain_eq_empty_iff, ← h, plain_eq_empty_iff]
    cases hcheck : C.check (Equation.body raw) with
    | error reason =>
      have hcheck' := (check_congr h).symm.trans hcheck
      exact .inr (.inl ⟨_, _, compile_of_rejected hbody hcheck, compile_of_rejected hbody' hcheck',
        rfl⟩)
    | ok e =>
      rw [compile_of_checked hbody hcheck,
        compile_of_checked hbody' ((check_congr h).symm.trans hcheck)]
      cases C.computation e with
      | error fault => exact .inr (.inr ⟨fault, rfl, rfl⟩)
      | ok compute => exact .inl ⟨_, _, rfl, rfl, rfl, rfl, differByGuards_of_compute rfl⟩

/-- The reciprocal with a slash, and with another sign for the division: next to the ordinate axis
the slope is flat in the first spelling and steep in the second. -/
theorem spellings_differ_by_guards_reciprocal :
    Equation.plain (Equation.body (some "dy/dx = 1/x")) =
      Equation.plain (Equation.body (some " dy / dx=1÷x")) ∧
    ∃ f g, reciprocalCalculus.compile (some "dy/dx = 1/x") = .ok f ∧
      reciprocalCalculus.compile (some " dy / dx=1÷x") = .ok g ∧ DifferByGuards f g ∧
      f.value 1e-11 1 = 0 ∧ f.value 1e-11 1 ≠ g.value 1e-11 1 := by
  have hnone : IsBlanks [] := fun _ h => absurd h List.not_mem_nil
  have hspace : IsBlanks [' '] := List.all_eq_true.mp rfl
  have hslash : IsMarked "dy/dx = 1/x".toList [] "dy/dx =".toList " 1/x".toList :=
    ⟨hnone, .parts hnone hnone hspace, by decide +kernel⟩
  have hobelus : IsMarked " dy / dx=1÷x".toList [' '] "dy / dx=".toList "1÷x".toList :=
    ⟨hspace, .parts hspace hspace hnone, by decide +kernel⟩
  have hplain : Equation.plain (Equation.body (some "dy/dx = 1/x")) =
      Equation.plain (Equation.body (some " dy / dx=1÷x")) := by
    rw [plain_body_of_spells hslash (spells_iff.mpr rfl),
      plain_body_of_spells hobelus (spells_iff.mpr rfl)]
    decide +kernel
  obtain ⟨f, hf, hflat⟩ := exists_of_decided
    (x := reciprocalCalculus.compile (some "dy/dx = 1/x"))
    (P := fun f : Slope Float => f.value 1e-11 1 = 0) (by decide +kernel)
  obtain ⟨g, hg, hsteep⟩ := exists_of_decided
    (x := reciprocalCalculus.compile (some " dy / dx=1÷x"))
    (P := fun g : Slope Float => g.value 1e-11 1 ≠ 0) (by decide +kernel)
  refine ⟨hplain, f, g, hf, hg, ?_, hflat, by rw [hflat]; exact hsteep.symm⟩
  rcases spellings_differ_by_guards reciprocalCalculus hplain with
    ⟨f', g', hf', hg', -, -, hguards⟩ | ⟨err, err', hrejected, -⟩ | ⟨fault, hfault, -⟩
  · cases hf.symm.trans hf'
    cases hg.symm.trans hg'
    exact hguards
  · cases hf.symm.trans hrejected
  · cases hf.symm.trans hfault

end DirectionField.Proofs
