import DirectionField.Figure
/-!
# Picks and previews

What is picked on a figure, and the first points of a trajectory as a table.
-/

namespace DirectionField

variable {α : Type} [Numeral α]

namespace Pick

/-- The coordinates of a picked point if it lies on the trace of the samples and has both. -/
def ofFields (fields : List (String × Datum α)) : Except Fault (Option (Point α)) :=
  let get (name : String) : Datum α := (fields.lookup name).getD .missing
  if (get "curve_number").isEqual (.whole Figure.gridTrace) && !(get "x").isMissing &&
      !(get "y").isMissing then do
    let x ← (get "x").toNumber
    let y ← (get "y").toNumber
    return some ⟨x, y⟩
  else .ok none

/-- The coordinates of the first picked point that counts. -/
def first : List (Datum α) → Except Fault (Option (Point α))
  | [] => .ok none
  | .record fields :: rest => do
    match ← ofFields fields with
    | some p => return some p
    | none => first rest
  | _ :: _ => .error .noMember

/-- The seed that a selection stands for. -/
def seed (selection : Datum α) : Except Fault (Option (Point α)) :=
  if selection.isTrue then do first (← Grid.parts selection) else .ok none

end Pick

namespace Preview

/-- The items up to a place, counted from the end when it is negative. -/
def upTo {β : Type} (bs : List β) (n : Int) : List β :=
  bs.take (if n < 0 then n + bs.length else n).toNat

/-- The first points of a trajectory; all of them without a limit. -/
def points (ps : List (Point α)) (limit : Datum α) : Except Fault (List (Point α)) :=
  match limit with
  | .missing => .ok ps
  | d =>
    match d.whole? with
    | some n => .ok (upTo ps n)
    | none => .error .mismatch

end Preview

end DirectionField
