import DirectionField.Text.Blank
/-!
# Equation texts

An equation is written `dy/dx = …`, or as its right-hand side alone. The body is the right-hand
side without the blanks around it; the expression is the body in plain spelling, with one character
for each operator that has look-alikes and `**` for powers.
-/

namespace DirectionField.Equation

open DirectionField.Text

/-- What follows the characters of `p` in front of a text; there may be blanks before them. -/
def after? (p cs : List Char) : Option (List Char) := p.isPrefixOf? (dropBlanks cs)

/-- What follows a marker `dy/dx =` in front of a text; there may be blanks before and between
its parts. -/
def afterMarker? (cs : List Char) : Option (List Char) := do
  let cs ← after? ['d', 'y'] cs
  let cs ← after? ['/'] cs
  let cs ← after? ['d', 'x'] cs
  after? ['='] cs

/-- The right-hand side of an equation, without one marker in front and blanks at its ends. -/
def bodyChars (cs : List Char) : List Char := stripChars ((afterMarker? cs).getD cs)

/-- The right-hand side of an equation; no text has an empty one. -/
def body (raw : Option String) : String :=
  match raw with
  | some s => String.ofList (bodyChars s.toList)
  | none => ""

/-- The operators that have look-alikes, each with the characters that stand for it. -/
def lookAlikes : List (Char × List Char) :=
  [('-', ['−', '–', '﹣', '－']), ('*', ['×', '⋅', '·', '∙', '＊']), ('/', ['÷', '／']),
    ('^', ['＾']), ('+', ['＋']), ('(', ['（']), (')', ['）'])]

/-- Every occurrence of a character replaced. -/
def replace (old new : Char) (cs : List Char) : List Char :=
  cs.map fun c => if c == old then new else c

/-- The text with plain operators, one look-alike replaced after the other. -/
def plainOperators (cs : List Char) : List Char :=
  lookAlikes.foldl (fun cs (plain, others) => others.foldl (fun cs c => replace c plain cs) cs) cs

/-- Powers written as `**`. -/
def starPowers (cs : List Char) : List Char :=
  cs.flatMap fun c => if c == '^' then ['*', '*'] else [c]

def plainChars (cs : List Char) : List Char := starPowers (plainOperators cs)

/-- The plain spelling of a body. -/
def plain (s : String) : String := String.ofList (plainChars s.toList)

/-- Whether there is nothing to compile: no text, or blanks only. -/
def isAbsent (raw : Option String) : Bool := (raw.map isBlankText).getD true

end DirectionField.Equation
