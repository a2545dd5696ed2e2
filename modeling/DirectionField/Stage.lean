/-!
# The stage of a session
-/

namespace DirectionField

/-- How far a session is with its equation. -/
inductive Stage where
  | idle
  | compiling
  | ready
  | compileError
  deriving DecidableEq, Repr

def Stage.name : Stage → String
  | .idle => "IDLE"
  | .compiling => "COMPILING"
  | .ready => "READY"
  | .compileError => "COMPILE_ERROR"

end DirectionField
