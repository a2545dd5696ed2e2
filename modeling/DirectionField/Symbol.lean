/-!
# Symbols

A symbol has a name and may be known to be real. Two symbols with one name are different if just one
of them is known to be real; so there is another symbol that has the name of a coordinate.
-/

namespace DirectionField

structure Symbol where
  name : String
  isReal : Bool
  deriving DecidableEq, Repr, Inhabited

namespace Symbol

/-- The symbol of a name that is not known to be real. -/
def named (name : String) : Symbol := ⟨name, false⟩

/-- The coordinates of the plane. -/
def x : Symbol := ⟨"x", true⟩

def y : Symbol := ⟨"y", true⟩

end Symbol

end DirectionField
