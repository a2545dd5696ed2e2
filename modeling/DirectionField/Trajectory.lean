import DirectionField.RungeKutta
import DirectionField.Settings
/-!
# Trajectories

Runs of Runge-Kutta steps of one width from a seed. An interval run goes on while the end of the
interval is not reached; a box run goes on, in either direction, as long as the next point is finite
and in the rectangle. The abscissa of a point is computed from the number of steps to it.
-/

namespace DirectionField

/-- Why a run ended. -/
inductive Ending where
  /-- The end of the interval is reached. -/
  | reached
  /-- As many steps are done as the settings admit. -/
  | exhausted
  /-- As many steps are done as an interval run may take, and its end is not reached. -/
  | ceiling
  /-- A stage or the next point is not finite. -/
  | notFinite
  /-- The next point lies outside the rectangle. -/
  | outside
  deriving DecidableEq, Repr

/-- The points of a run, the seed first, and why there are no more. -/
structure Run (α : Type) where
  points : List (Point α)
  ending : Ending

namespace Run

variable {α : Type}

/-- The number of steps that were done. -/
def steps (r : Run α) : Nat := r.points.length - 1

section Arithmetic

variable [Arithmetic α]

open DirectionField.Arithmetic (ofInt lt isFinite)

/-- The abscissa after `n` steps. -/
def abscissa (x₀ h : α) (n : Nat) : α := x₀ + ofInt n * h

/-- Steps inside a region, `remaining` of them at most. The next one is the `n`-th and starts at
`here`; `passed` holds the points so far, the latest first. -/
def insideFrom (f : α → α → α) (region : Point α → Except Fault Bool) (x₀ h : α) :
    Nat → Nat → Point α → List (Point α) → Except Fault (Run α)
  | 0, _, _, passed => .ok ⟨passed.reverse, .exhausted⟩
  | remaining + 1, n, here, passed =>
    let s := Stages.compute f here.x here.y h
    let next : Point α := ⟨abscissa x₀ h n, s.next⟩
    if s.areFinite && isFinite next.x then
      match region next with
      | .error e => .error e
      | .ok true => insideFrom f region x₀ h remaining (n + 1) next (next :: passed)
      | .ok false => .ok ⟨passed.reverse, .outside⟩
    else .ok ⟨passed.reverse, .notFinite⟩

/-- The run of at most `limit` steps of width `h` from a seed inside a region. -/
def inside (f : α → α → α) (region : Point α → Except Fault Bool) (seed : Point α) (h : α)
    (limit : Nat) : Except Fault (Run α) :=
  insideFrom f region seed.x h limit 1 seed [seed]

/-- Steps up to `xEnd`, `remaining` of them at most. -/
def upToFrom (f : α → α → α) (x₀ h xEnd : α) : Nat → Nat → Point α → List (Point α) → Run α
  | 0, _, here, passed => ⟨passed.reverse, if lt here.x xEnd then .ceiling else .reached⟩
  | remaining + 1, n, here, passed =>
    if lt here.x xEnd then
      let next : Point α := ⟨abscissa x₀ h n, (Stages.compute f here.x here.y h).next⟩
      upToFrom f x₀ h xEnd remaining (n + 1) next (next :: passed)
    else ⟨passed.reverse, .reached⟩

/-- The run of at most `limit` steps of width `h` from a seed up to `xEnd`. -/
def upTo (f : α → α → α) (seed : Point α) (xEnd h : α) (limit : Nat) : Run α :=
  upToFrom f seed.x h xEnd limit 1 seed [seed]

end Arithmetic

variable [Numeral α]

/-- The number of steps that a run of the settings may take, given as a whole number. -/
def stepLimit (maxSteps : Datum α) : Except Fault Nat :=
  match maxSteps.whole? with
  | some n => .ok n.toNat
  | none => .error .mismatch

/-- The run in the rectangle of the settings, to the right or to the left of the seed. -/
def box (f : α → α → α) (x₀ y₀ h : Datum α) (settings : Settings α)
    (direction maxSteps : Datum α) : Except Fault (Run α) := do
  let forward := direction.isEqual (.whole 1)
  if !forward && !direction.isEqual (.whole (-1)) then
    .error (.badDirection direction.toText)
  let limit ← if maxSteps.isMissing then .ok settings.maxSteps else maxSteps.toWhole.map .whole
  let x ← x₀.toNumber
  let y ← y₀.toNumber
  let width := Arithmetic.ofInt (if forward then 1 else -1) * Arithmetic.abs (← h.toNumber)
  inside f (fun p => settings.contains (.real p.x) (.real p.y)) ⟨x, y⟩ width (← stepLimit limit)

/-- The steps it takes at most to come from `x` to `xEnd`, for a run without a ceiling. -/
def reach (x xEnd h : Extended) : Nat :=
  match x, xEnd, h with
  | .finite a, .finite b, .finite w => if 0 < w then ((b - a) / w).ceil.toNat + 2 else 0
  | _, _, _ => 0

/-- How many steps come before the ceiling: the least whole number that is not below it. -/
def ceilingSteps (x xEnd h : α) (ceiling : Datum α) : Except Fault Nat :=
  let unlimited := reach (Numeral.exact x) (Numeral.exact xEnd) (Numeral.exact h)
  match ceiling.exactValue? with
  | some (.finite q) => .ok q.ceil.toNat
  | some (.infinite true) => .ok 0
  | some (.infinite false) | some .undefined => .ok unlimited
  | none => .error .mismatch

/-- The run from the seed to `xEnd`, of at most as many steps as the ceiling says. -/
def interval (f : α → α → α) (x₀ y₀ xEnd h ceiling : Datum α) : Except Fault (Run α) := do
  Settings.checkStep h
  let x ← x₀.toNumber
  let y ← y₀.toNumber
  let e ← xEnd.toNumber
  let w ← h.toNumber
  -- the ceiling matters only once there is a step to do
  if Arithmetic.lt x e then return upTo f ⟨x, y⟩ e w (← ceilingSteps x e w ceiling)
  else return ⟨[⟨x, y⟩], .reached⟩

/-- The ceiling of an interval run when none is given. -/
def standardCeiling : Nat := 100000

/-- What a run is to reach: the end of an interval, or the border of a rectangle. -/
inductive Target (α : Type) where
  | settings (s : Settings α)
  | value (d : Datum α)

/-- The run to a target, which tells the kind of run. -/
def toTarget (f : α → α → α) (x₀ y₀ h : Datum α) (target : Target α) (maxSteps : Datum α) :
    Except Fault (Run α) :=
  match target with
  | .settings s => box f x₀ y₀ h s (.whole 1) maxSteps
  | .value d =>
    if d.isNumber then
      interval f x₀ y₀ d h (if maxSteps.isMissing then .whole standardCeiling else maxSteps)
    else .error (.badTarget d.kindName)

end Run

end DirectionField
