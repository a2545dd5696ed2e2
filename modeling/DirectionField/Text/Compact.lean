import DirectionField.Datum
/-!
# Compact numbers

Numbers for reading, with a few significant digits. A value that is no number is written as it is.
-/

namespace DirectionField.Text

variable {α : Type} [Numeral α]

/-- A number with at most `digits` significant digits, a negative zero without its sign. -/
def compactNumber (digits : Nat) (x : α) : String :=
  let s := Numeral.general digits x
  if s == "-0" then "0" else s

/-- The digits that numbers in explanations have. -/
def compactDigits : Nat := 6

/-- The number of digits that a value asks for; `none` where it asks for none that is possible. -/
def digitCount? (d : Datum α) : Option Nat :=
  -- no double has more digits than the cut leaves
  let admitted (n : Nat) : Option Nat := if n < Nat.pow 2 31 then some (min n 1100) else none
  match d with
  | .whole n => if 0 ≤ n then admitted n.toNat else none
  | .text s =>
    match Decimal.readDigits s.toList with
    | some (_, n, []) => if s.toList.contains '_' then none else admitted n
    | _ => none
  | _ => none

/-- Any value with at most `digits` significant digits; one that is no number, or digits that are
none, leave it as it is. -/
def compact (value digits : Datum α) : Except Fault String :=
  match value.toNumber with
  | .error .tooLarge => .error .tooLarge
  | .error _ => .ok value.toText
  | .ok x =>
    match digitCount? digits with
    | some n => .ok (compactNumber n x)
    | none => .ok value.toText

/-- A number in an explanation. -/
def compact6 (x : α) : String := compactNumber compactDigits x

end DirectionField.Text
