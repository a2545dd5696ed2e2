import DirectionField.Arithmetic
/-!
# The Runge-Kutta step

One step of the classical method of fourth order for `dy/dx = f (x, y)`.
-/

namespace DirectionField

structure Point (α : Type) where
  x : α
  y : α
  deriving DecidableEq, Repr, Inhabited

/-- The four increments of a step and the value that it leads to. -/
structure Stages (α : Type) where
  k1 : α
  k2 : α
  k3 : α
  k4 : α
  next : α
  deriving Repr

namespace Stages

variable {α : Type} [Arithmetic α]

open Arithmetic (ofInt)

/-- The stages of a step of width `h` from `(x, y)`. -/
def compute (f : α → α → α) (x y h : α) : Stages α :=
  let k1 := h * f x y
  let k2 := h * f (x + h / ofInt 2) (y + k1 / ofInt 2)
  let k3 := h * f (x + h / ofInt 2) (y + k2 / ofInt 2)
  let k4 := h * f (x + h) (y + k3)
  ⟨k1, k2, k3, k4, y + (k1 + ofInt 2 * k2 + ofInt 2 * k3 + k4) / ofInt 6⟩

def areFinite (s : Stages α) : Bool :=
  [s.k1, s.k2, s.k3, s.k4, s.next].all Arithmetic.isFinite

end Stages

end DirectionField
