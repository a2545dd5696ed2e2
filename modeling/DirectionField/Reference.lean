import DirectionField.Settings
import DirectionField.RungeKutta
import DirectionField.Journal
/-!
# Reference solutions

A solution of high accuracy at given abscissae, for comparison with a run. How it is computed is
left to a method, which answers the abscissae that it comes to.
-/

namespace DirectionField.Reference

variable {α : Type}

/-- The points that a method has found, and whether it has come to the end. -/
structure Answer (α : Type) where
  points : List (Point α)
  finished : Bool

/-- A way to follow the solution through a seed to `xEnd`, with the values at increasing abscissae
on the way. -/
structure Method (α : Type) where
  follow : (α → α → α) → Point α → α → List α → Answer α

/-- Whether each number is below the next. -/
def isIncreasing [Arithmetic α] : List α → Bool
  | a :: b :: r => Arithmetic.lt a b && isIncreasing (b :: r)
  | _ => true

variable [Numeral α]

/-- The solution through a seed at those abscissae that lie between the seed and the last of them;
nothing when there are fewer than two or the last is not to the right of the seed. A solution that
does not come to any of them is a fault. -/
def trajectory (M : Method α) (f : α → α → α) (x₀ y₀ : Datum α) (xs : List α) :
    Except Fault (List (Point α)) × List (Event α) :=
  match xs.getLast? with
  | none => (.ok [], [])
  | some xEnd =>
    if xs.length < 2 then (.ok [], [])
    else
      match (Datum.real xEnd).le x₀, x₀.toNumber, y₀.toNumber with
      | .error e, _, _ => (.error e, [])
      | .ok true, _, _ => (.ok [], [])
      | _, .error e, _ | _, _, .error e => (.error e, [])
      | _, .ok x, .ok y =>
        let wanted := xs.filter fun t => Arithmetic.le x t && Arithmetic.le t xEnd
        if !isIncreasing wanted || !Arithmetic.isFinite y then (.error .unreadable, [])
        else
          let a := M.follow f ⟨x, y⟩ xEnd wanted
          (if a.points.isEmpty then .error .noIndex else .ok a.points,
            if a.finished then [] else [.referenceStopped])

end DirectionField.Reference
