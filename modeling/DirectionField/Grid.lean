import DirectionField.Datum
/-!
# Sampling a field

The slopes at the points of a square grid that spans a rectangle, row by row with `x` outermost.
Points where the raw slope is not finite are skipped.
-/

namespace DirectionField

structure Sample (α : Type) where
  x : α
  y : α
  slope : α
  deriving DecidableEq, Repr

namespace Grid

variable {α : Type}

section Arithmetic

variable [Arithmetic α]

open DirectionField.Arithmetic (ofInt isEqual isFinite)

/-- How far `i` of `n` equal steps lead on a way. A way so short that a step vanishes is not taken
step by step, but in the proportion of `i` to `n`. -/
def advance (width : α) (n i : Nat) : α :=
  let step := width / ofInt n
  if isEqual step (ofInt 0) then ofInt i / ofInt n * width else ofInt i * step

/-- `n` evenly spaced numbers from `a` to `b`, both ends included; a single one lies halfway. -/
def spaced (a b : α) (n : Nat) : List α :=
  if n = 1 then [(a + b) / ofInt 2]
  else (List.range n).map fun i => if i + 1 = n then b else a + advance (b - a) (n - 1) i

/-- The samples in one row. -/
def row (f : α → α → α) (ys : List α) (x : α) : List (Sample α) :=
  ys.filterMap fun y =>
    let s := f x y
    if isFinite s then some ⟨x, y, s⟩ else none

/-- The samples on a grid. -/
def samples (f : α → α → α) (xs ys : List α) : List (Sample α) := xs.flatMap (row f ys)

/-- The first samples on a grid; rows that come after them are not computed. -/
def firstSamples (f : α → α → α) (ys : List α) : Nat → List α → List (Sample α)
  | 0, _ => []
  | _, [] => []
  | k, x :: xs =>
    let r := row f ys x
    if k ≤ r.length then r.take k else r ++ firstSamples f ys (k - r.length) xs

end Arithmetic

variable [Numeral α]

structure Rectangle (α : Type) where
  xMin : α
  xMax : α
  yMin : α
  yMax : α

/-- The parts of a value that has parts. -/
def parts : Datum α → Except Fault (List (Datum α))
  | .list items => .ok items
  | .text s => .ok (s.toList.map fun c => .text (String.singleton c))
  | .record fields => .ok (fields.map fun f => .text f.1)
  | _ => .error .mismatch

/-- A rectangle given by four numbers. The number after the fourth is looked at before there are
found to be too many. -/
def rectangle (bounds : Datum α) : Except Fault (Rectangle α) := do
  match ← ((← parts bounds).take 5).mapM Datum.toNumber with
  | [a, b, c, d] => return ⟨a, b, c, d⟩
  | _ => .error .unreadable

/-- How many samples are drawn when no density is given. -/
def standardDensity : Nat := 20

/-- The samples on a grid of the given density; `limit` says how many are drawn at most. -/
def sample (f : α → α → α) (bounds density : Datum α) (limit : Option Nat) :
    Except Fault (List (Sample α)) :=
  if limit == some 0 then .ok []
  else do
    let n ← density.toWhole
    if n < 1 then return []
    let r ← rectangle bounds
    let xs := spaced r.xMin r.xMax n.toNat
    let ys := spaced r.yMin r.yMax n.toNat
    match limit with
    | some k => return firstSamples f ys k xs
    | none => return samples f xs ys

end Grid

end DirectionField
