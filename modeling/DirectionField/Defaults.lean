import DirectionField.Arithmetic
/-!
# What a session starts with

Colours, example equations and the first problem of the solver.
-/

namespace DirectionField.Defaults

/-- The colours of curves, used in turn. -/
def palette : List String :=
  ["#0D6EFD", "#DC3545", "#198754", "#FD7E14", "#6F42C1", "#20C997", "#D63384", "#6C757D"]

def equation : String := "dy/dx = -x"

/-- Equations to choose from, each with its name. -/
def examples : List (String × String) :=
  [("Linear decay", "dy/dx = -y"), ("Logistic growth", "dy/dx = y*(1 - y/4)"),
    ("Parabolas", "dy/dx = -x"), ("Gaussian growth", "dy/dx = x*y"),
    ("Homogeneous", "dy/dx = y/x"), ("Forced oscillation", "dy/dx = sin(x) - y"),
    ("Riccati", "dy/dx = x^2 + y^2")]

/-- How many points of a solution are shown in a table. -/
def previewPoints : Nat := 20

variable {α : Type} [Arithmetic α]

def x₀ : α := 0.0

def y₀ : α := 1.0

def xEnd : α := 1.0

def step : α := 0.1

end DirectionField.Defaults
