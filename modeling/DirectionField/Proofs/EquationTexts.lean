import DirectionField.Equation
import Mathlib

/-!
# Bodies of equation texts

The body of a text has no blank at either end. So a marker in front of a body is taken off again
with the blank that follows it, and nothing else is.
-/

namespace DirectionField.Proofs

open Text (isBlank dropBlanks stripChars)

/-! ## Blanks at the ends -/

/-- Neither the first nor the last character is a blank. -/
structure IsStripped (cs : List Char) : Prop where
  first : ∀ c ∈ cs.head?, isBlank c = false
  last : ∀ c ∈ cs.getLast?, isBlank c = false

lemma stripChars_eq_rdropWhile (cs : List Char) :
    stripChars cs = (cs.dropWhile isBlank).rdropWhile isBlank := rfl

lemma isStripped_stripChars (cs : List Char) : IsStripped (stripChars cs) := by
  rw [stripChars_eq_rdropWhile]
  constructor
  case first =>
    -- what is taken off at the end leaves the first character, which was looked at before
    intro c hc
    obtain ⟨blanks, happend⟩ := List.rdropWhile_prefix isBlank (cs.dropWhile isBlank)
    have hfirst := List.head?_dropWhile_not isBlank cs
    rw [← happend, List.head?_append, hc] at hfirst
    exact hfirst
  case last =>
    intro c hc
    obtain ⟨hne, rfl⟩ := List.mem_getLast?_eq_getLast hc
    exact Bool.eq_false_of_not_eq_true (List.rdropWhile_last_not isBlank _ hne)

lemma stripChars_of_isStripped {cs : List Char} (h : IsStripped cs) : stripChars cs = cs := by
  have hfirst : cs.dropWhile isBlank = cs := by
    cases cs with
    | nil => rfl
    | cons c cs => rw [List.dropWhile_cons, h.first c rfl, if_neg Bool.false_ne_true]
  rw [stripChars_eq_rdropWhile, hfirst, List.rdropWhile_eq_self_iff]
  intro hne
  rw [h.last _ (List.getLast?_eq_some_getLast hne)]
  exact Bool.false_ne_true

lemma stripChars_cons_of_blank {c : Char} (hc : isBlank c = true) (cs : List Char) :
    stripChars (c :: cs) = stripChars cs := by
  rw [stripChars_eq_rdropWhile, List.dropWhile_cons, if_pos hc]
  rfl

lemma dropBlanks_of_all {cs : List Char} (h : cs.all isBlank = true) : dropBlanks cs = [] := by
  rw [List.all_eq_true] at h
  exact List.dropWhile_eq_nil_iff.mpr h

/-! ## Markers -/

lemma body_of_absent {text : Option String} (h : Equation.isAbsent text = true) :
    Equation.body text = "" := by
  cases text with
  | none => rfl
  | some s =>
    have hdrop := dropBlanks_of_all h
    have hmarker : Equation.afterMarker? s.toList = none := by
      rw [Equation.afterMarker?, Equation.after?, hdrop]
      rfl
    simp only [Equation.body, Equation.bodyChars, hmarker, Option.getD_none, stripChars, hdrop]
    rfl

/-- No text has an empty body, like that of an empty text. -/
lemma body_getD (text : Option String) :
    Equation.body (some (text.getD "")) = Equation.body text := by
  cases text <;> rfl

lemma isStripped_body (text : Option String) : IsStripped (Equation.body text).toList := by
  cases text with
  | none => exact isStripped_stripChars []
  | some s =>
    rw [Equation.body, String.toList_ofList]
    exact isStripped_stripChars _

/-- The body of an equation behind a marker. -/
def marked (text : Option String) : String := "dy/dx = " ++ Equation.body text

lemma toList_marked (text : Option String) :
    (marked text).toList =
      ['d', 'y', '/', 'd', 'x', ' ', '=', ' '] ++ (Equation.body text).toList := by
  rw [marked, String.toList_append]
  rfl

lemma afterMarker?_marked (text : Option String) :
    Equation.afterMarker? (marked text).toList = some (' ' :: (Equation.body text).toList) := by
  rw [toList_marked]
  rfl

/-- The marker in front of a body is taken off once: a marker that the body begins with stays. -/
lemma body_marked (text : Option String) :
    Equation.body (some (marked text)) = Equation.body text := by
  have hblank : isBlank ' ' = true := by decide
  rw [Equation.body, Equation.bodyChars, afterMarker?_marked, Option.getD_some,
    stripChars_cons_of_blank hblank, stripChars_of_isStripped (isStripped_body text),
    String.ofList_toList]

/-- A body that is not put behind a marker may lose the one that it begins with. -/
example : Equation.body (some (marked (some "dy/dx = dy/dx = x"))) = "dy/dx = x" ∧
    Equation.body (some "dy/dx = x") = "x" := by decide

end DirectionField.Proofs
