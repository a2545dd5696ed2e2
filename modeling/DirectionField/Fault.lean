/-!
# Faults

The reasons for which an operation is refused, other than an equation that does not compile. The
faults that the user of a session can cause carry a message.
-/

namespace DirectionField

inductive Axis where
  | x | y
  deriving DecidableEq, Repr

def Axis.name : Axis → String
  | .x => "x"
  | .y => "y"

inductive Fault where
  /-- A value of a kind that the operation does not take. -/
  | mismatch
  /-- A text or number that does not stand for what is asked. -/
  | unreadable
  /-- A number out of range. -/
  | tooLarge
  | noMember
  | noIndex
  /-- An expression that no numeric program computes. -/
  | notComputable
  | readOnly
  | divisionByZero
  | emptyRange (axis : Axis) (low high : String)
  | stepNotPositive (step : String)
  | tooFewSteps (given : String)
  | badDirection (given : String)
  | emptyPalette
  | badTarget (kind : String)
  deriving DecidableEq, Repr

namespace Fault

/-- The message of a fault that has one. -/
def message? : Fault → Option String
  | .emptyRange axis low high =>
    let a := axis.name
    some ("Invalid " ++ a ++ " range: " ++ a ++ "_min (" ++ low ++ ") must be less than " ++ a ++
      "_max (" ++ high ++ ").")
  | .stepNotPositive step => some ("Step size must be positive, got " ++ step ++ ".")
  | .tooFewSteps given => some ("max_steps must be at least 1, got " ++ given ++ ".")
  | .badDirection given => some ("direction must be +1 or -1, got " ++ given ++ ".")
  | .emptyPalette => some "palette_size must be at least 1"
  | .badTarget kind =>
    some ("Expected an x_end number or an IntegrationConfig, got " ++ kind ++ ".")
  | _ => none

end Fault

end DirectionField
