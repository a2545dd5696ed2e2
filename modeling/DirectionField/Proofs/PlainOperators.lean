import DirectionField.Equation
import Mathlib

/-!
# Plain operators

For the plain spelling, one look-alike after the other is replaced in the whole text, and powers are
written as `**` at the end. So a replacement could change what an earlier one has put in. But what
is put in for a look-alike is none itself, and the stars of a power are not replaced: each character
has a plain text of its own, and the spelling is one substitution.
-/

namespace DirectionField.Proofs

open Equation (lookAlikes plainChars plainOperators starPowers)

/-! ## Replacements one after the other -/

/-- A character after the first of the replacements, old and new, that is made for it. -/
def replaced (rs : List (Char × Char)) (c : Char) : Char := (rs.lookup c).getD c

/-- No replacement puts in a character that is itself replaced. -/
def NoneFeeds (rs : List (Char × Char)) : Prop := ∀ r ∈ rs, ∀ r' ∈ rs, r.2 ≠ r'.1

section Replacements

variable {c d e : Char} {r : Char × Char} {rs : List (Char × Char)}

lemma replaced_of_forall_ne (h : ∀ r ∈ rs, c ≠ r.1) : replaced rs c = c := by
  have hnone : rs.lookup c = none := by
    rw [List.lookup_eq_none_iff]
    intro r hr
    exact bne_iff_ne.mpr (h r hr)
  rw [replaced, hnone, Option.getD_none]

lemma replaced_cons_self : replaced ((c, d) :: rs) c = d := by
  rw [replaced, List.lookup_cons_self, Option.getD_some]

lemma replaced_cons_of_ne (h : e ≠ c) : replaced ((c, d) :: rs) e = replaced rs e := by
  rw [replaced, List.lookup_cons, beq_false_of_ne h, replaced]

lemma NoneFeeds.tail (h : NoneFeeds (r :: rs)) : NoneFeeds rs :=
  fun p hp q hq => h p (List.mem_cons_of_mem r hp) q (List.mem_cons_of_mem r hq)

lemma NoneFeeds.replaced_head (h : NoneFeeds ((c, d) :: rs)) : replaced rs d = d :=
  replaced_of_forall_ne fun r hr => h (c, d) List.mem_cons_self r (List.mem_cons_of_mem _ hr)

lemma NoneFeeds.map_replaced_replace (h : NoneFeeds ((c, d) :: rs)) (cs : List Char) :
    (Equation.replace c d cs).map (replaced rs) = cs.map (replaced ((c, d) :: rs)) := by
  rw [Equation.replace, List.map_map]
  refine List.map_congr_left fun e _ => ?_
  rw [Function.comp_apply]
  by_cases he : e = c
  · -- what the first replacement puts in, the others leave alone
    rw [he, if_pos (beq_self_eq_true c), h.replaced_head, replaced_cons_self]
  · rw [if_neg (by simpa using he), replaced_cons_of_ne he]

/-- Replacements in the whole text, one after the other, are one replacement in each character. -/
lemma NoneFeeds.foldl_replace (h : NoneFeeds rs) (cs : List Char) :
    rs.foldl (fun cs r => Equation.replace r.1 r.2 cs) cs = cs.map (replaced rs) := by
  induction rs generalizing cs with
  | nil => exact (List.map_id cs).symm
  | cons r rs ih => rw [List.foldl_cons, ih h.tail, h.map_replaced_replace]

lemma NoneFeeds.replaced_ne (h : NoneFeeds rs) (hr : r ∈ rs) : replaced rs c ≠ r.1 := by
  rw [replaced]
  cases hlookup : rs.lookup c with
  | none => exact bne_iff_ne.mp (List.lookup_eq_none_iff.mp hlookup r hr)
  | some d =>
    obtain ⟨front, back, rfl, -⟩ := List.lookup_eq_some_iff.mp hlookup
    exact h (c, d) (by simp) r hr

end Replacements

/-! ## The table of look-alikes -/

/-- The look-alikes in the order in which they are replaced, each with its plain operator. -/
def replacements : List (Char × Char) :=
  lookAlikes.flatMap fun (plain, others) => others.map fun c => (c, plain)

/-- The plain text that stands for a character. -/
def plainSign : Char → List Char
  | '−' | '–' | '﹣' | '－' => ['-']
  | '×' | '⋅' | '·' | '∙' | '＊' => ['*']
  | '÷' | '／' => ['/']
  | '^' | '＾' => ['*', '*']
  | '＋' => ['+']
  | '（' => ['(']
  | '）' => [')']
  | c => [c]

/-- A character that is neither a look-alike nor the short sign of a power. -/
def IsPlain (c : Char) : Prop := c ≠ '^' ∧ ∀ entry ∈ lookAlikes, c ∉ entry.2

instance : DecidablePred IsPlain := fun _ => inferInstanceAs (Decidable (_ ∧ _))

section Table

variable {c d : Char} {cs : List Char}

lemma noneFeeds_replacements : NoneFeeds replacements := by
  unfold NoneFeeds
  decide

lemma plainOperators_eq_map (cs : List Char) :
    plainOperators cs = cs.map (replaced replacements) := by
  rw [← noneFeeds_replacements.foldl_replace, plainOperators, replacements, List.foldl_flatMap]
  simp only [List.foldl_map]

lemma isPlain_iff : IsPlain c ↔ c ≠ '^' ∧ ∀ r ∈ replacements, c ≠ r.1 := by
  refine and_congr_right fun _ => ?_
  simp only [replacements, List.mem_flatMap, List.mem_map]
  constructor
  · rintro h r ⟨entry, hentry, e, he, rfl⟩ rfl
    exact h entry hentry he
  · intro h entry hentry hc
    exact h (c, entry.1) ⟨entry, hentry, c, hc, rfl⟩ rfl

lemma plainSign_of_isPlain (h : IsPlain c) : plainSign c = [c] := by
  unfold plainSign
  split
  case h_17 => rfl
  all_goals exact absurd h (by decide)

lemma starPowers_replaced_of_mem :
    ∀ r ∈ replacements, starPowers [replaced replacements r.1] = plainSign r.1 := by
  decide

lemma starPowers_of_ne (h : c ≠ '^') : starPowers [c] = [c] := by simp [starPowers, h]

lemma starPowers_replaced (c : Char) : starPowers [replaced replacements c] = plainSign c := by
  by_cases hother : ∀ r ∈ replacements, c ≠ r.1
  · rw [replaced_of_forall_ne hother]
    by_cases hpower : c = '^'
    · rw [hpower]
      rfl
    · rw [starPowers_of_ne hpower, plainSign_of_isPlain (isPlain_iff.mpr ⟨hpower, hother⟩)]
  · simp only [not_forall, not_not] at hother
    obtain ⟨r, hr, rfl⟩ := hother
    exact starPowers_replaced_of_mem r hr

/-! Texts, character by character. -/

lemma plainChars_eq_flatMap (cs : List Char) : plainChars cs = cs.flatMap plainSign := by
  calc plainChars cs
      = (cs.map (replaced replacements)).flatMap fun c => starPowers [c] := by
        rw [plainChars, plainOperators_eq_map]
        exact List.flatMap_congr fun c _ => by rw [starPowers, List.flatMap_singleton]
    _ = cs.flatMap plainSign := by
        rw [List.flatMap_map]
        simp only [starPowers_replaced]

lemma plainChars_append (cs ds : List Char) :
    plainChars (cs ++ ds) = plainChars cs ++ plainChars ds := by
  simp only [plainChars_eq_flatMap, List.flatMap_append]

lemma plainChars_cons (c : Char) (cs : List Char) :
    plainChars (c :: cs) = plainChars [c] ++ plainChars cs :=
  plainChars_append [c] cs

lemma plainChars_singleton (c : Char) : plainChars [c] = plainSign c := by
  rw [plainChars_eq_flatMap, List.flatMap_singleton]

/-- What a character stands for is the same from both ends. -/
lemma plainChars_reverse (cs : List Char) : plainChars cs.reverse = (plainChars cs).reverse := by
  have hsign (c : Char) : (plainSign c).reverse = plainSign c := by
    unfold plainSign
    split <;> rfl
  simp only [plainChars_eq_flatMap, List.reverse_flatMap, Function.comp_def, hsign]

lemma isPlain_of_mem_plainSign (h : d ∈ plainSign c) : IsPlain d := by
  rw [← starPowers_replaced] at h
  by_cases hpower : replaced replacements c = '^'
  · rw [hpower] at h
    have hstar : d = '*' := by simpa [starPowers] using h
    subst hstar
    decide
  · rw [starPowers_of_ne hpower, List.mem_singleton] at h
    subst h
    exact isPlain_iff.mpr ⟨hpower, fun r hr => noneFeeds_replacements.replaced_ne hr⟩

lemma isPlain_of_mem_plainChars (h : d ∈ plainChars cs) : IsPlain d := by
  rw [plainChars_eq_flatMap, List.mem_flatMap] at h
  obtain ⟨c, -, hd⟩ := h
  exact isPlain_of_mem_plainSign hd

lemma plainChars_of_forall_isPlain (h : ∀ c ∈ cs, IsPlain c) : plainChars cs = cs := by
  rw [plainChars_eq_flatMap]
  induction cs with
  | nil => rfl
  | cons c cs ih =>
    rw [List.forall_mem_cons] at h
    rw [List.flatMap_cons, plainSign_of_isPlain h.1, ih h.2, List.singleton_append]

end Table

/-- The plain spelling of a text has the plain text of each character in its place, whatever stands
around it. So the spelling of two texts in a row is that of each; a plain spelling is its own; and
neither a look-alike nor the short sign of a power is left in it. -/
theorem plain_substitutes_signs (s t : String) :
    Equation.plain s = String.ofList (s.toList.flatMap plainSign) ∧
    Equation.plain (s ++ t) = Equation.plain s ++ Equation.plain t ∧
    Equation.plain (Equation.plain s) = Equation.plain s ∧
    ∀ c ∈ (Equation.plain s).toList, IsPlain c := by
  have hplain : ∀ c ∈ plainChars s.toList, IsPlain c := fun _ => isPlain_of_mem_plainChars
  refine ⟨?_, ?_, ?_, ?_⟩
  · rw [Equation.plain, plainChars_eq_flatMap]
  · rw [Equation.plain, String.toList_append, plainChars_append, String.ofList_append]
    rfl
  · simp only [Equation.plain, String.toList_ofList]
    rw [plainChars_of_forall_isPlain hplain]
  · rwa [Equation.plain, String.toList_ofList]

/-- A power in wide signs. Its sign is replaced twice, and the stars are left as they are. -/
theorem plain_substitutes_signs_power :
    Equation.plain "（x−1）＾2" = "(x-1)**2" ∧
    Equation.plain ("（x−1）＾2" ++ "÷y") = "(x-1)**2" ++ Equation.plain "÷y" ∧
    Equation.plain "(x-1)**2" = "(x-1)**2" ∧ '*' ∈ "(x-1)**2".toList ∧ IsPlain '*' := by
  obtain ⟨hsigns, happend, htwice, hleft⟩ := plain_substitutes_signs "（x−1）＾2" "÷y"
  have hplain : Equation.plain "（x−1）＾2" = "(x-1)**2" := hsigns.trans (by decide)
  have hstar : '*' ∈ "(x-1)**2".toList := by decide
  rw [hplain] at happend htwice hleft
  exact ⟨hplain, happend, htwice, hstar, hleft '*' hstar⟩

end DirectionField.Proofs
