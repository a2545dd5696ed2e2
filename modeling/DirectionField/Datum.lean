import DirectionField.Arithmetic
import DirectionField.Fault
import DirectionField.Text.Quoted
/-!
# Loosely typed values

Settings, seeds and picks come from forms and widgets, where a number may be given as a text, a
truth value or not at all. A datum holds what was given; it is read as a number only where a number
is needed, and a value that is none is a fault there.
-/

namespace DirectionField

inductive Datum (α : Type) where
  | missing
  | flag (b : Bool)
  | whole (n : Int)
  | real (x : α)
  | text (s : String)
  | list (items : List (Datum α))
  | record (fields : List (String × Datum α))
  deriving Inhabited

namespace Datum

variable {α : Type}

/-- The whole number that a truth value or whole number is. -/
def whole? : Datum α → Option Int
  | .flag b => some (if b then 1 else 0)
  | .whole n => some n
  | _ => none

/-- Whether the datum is a number, truth values counted as such. -/
def isNumber : Datum α → Bool
  | .flag _ | .whole _ | .real _ => true
  | _ => false

def isMissing : Datum α → Bool
  | .missing => true
  | _ => false

/-- The name of the kind of value, as messages give it. -/
def kindName : Datum α → String
  | .missing => "NoneType"
  | .flag _ => "bool"
  | .whole _ => "int"
  | .real _ => "float"
  | .text _ => "str"
  | .list _ => "list"
  | .record _ => "dict"

variable [Numeral α]

/-- The exact value of a number. -/
def exactValue? : Datum α → Option Extended
  | .real x => some (Numeral.exact x)
  | d => d.whole?.map fun n => .finite n

/-- Whether the datum counts as given. -/
def isTrue : Datum α → Bool
  | .missing => false
  | .flag b => b
  | .whole n => n != 0
  | .real x => !Extended.beq (Numeral.exact x) (.finite 0)
  | .text s => !s.isEmpty
  | .list items => !items.isEmpty
  | .record fields => !fields.isEmpty

/-- Reads the datum as a number of the arithmetic. -/
def toNumber : Datum α → Except Fault α
  | .real x => .ok x
  | .text s => ((Numeral.read? s).map .ok).getD (.error .unreadable)
  | d =>
    match d.whole? with
    | some n => ((Numeral.ofInt? n).map .ok).getD (.error .tooLarge)
    | none => .error .mismatch

/-- The whole number next to a rational number in the direction of zero. -/
def truncate (q : Rat) : Int := Int.tdiv q.num q.den

/-- Reads the datum as a whole number; a fraction is cut off. -/
def toWhole : Datum α → Except Fault Int
  | .real x =>
    match Numeral.exact x with
    | .undefined => .error .unreadable
    | .infinite _ => .error .tooLarge
    | .finite q => .ok (truncate q)
  | .text s => ((Decimal.readInt s).map .ok).getD (.error .unreadable)
  | d => (d.whole?.map .ok).getD (.error .mismatch)

/-! ## Comparison -/

/-- Compares two numbers; `none` when one of the data is no number. -/
def compareNumbers (onReal : α → α → Bool) (onExact : Extended → Extended → Bool)
    (a b : Datum α) : Option Bool :=
  match a, b with
  | .real x, .real y => some (onReal x y)
  | _, _ => do return onExact (← a.exactValue?) (← b.exactValue?)

/-- Whether two data are equal: numbers by value, records whatever the order of their fields. -/
def isEqual (a b : Datum α) : Bool :=
  match a, b with
  | .missing, .missing => true
  | .text s, .text t => s == t
  | .list xs, .list ys => allEqual xs ys
  | .record fs, .record gs => fs.length == gs.length && fieldsEqual fs gs
  | a, b => (compareNumbers Arithmetic.isEqual Extended.beq a b).getD false
where
  allEqual : List (Datum α) → List (Datum α) → Bool
    | [], [] => true
    | x :: xs, y :: ys => isEqual x y && allEqual xs ys
    | _, _ => false
  fieldsEqual : List (String × Datum α) → List (String × Datum α) → Bool
    | [], _ => true
    | (k, x) :: fs, gs =>
      (match gs.lookup k with
        | some y => isEqual x y
        | none => false) && fieldsEqual fs gs

/-- An order of data: of numbers, of texts, and of lists by their first difference. `strict` tells
whether equal data count. -/
def inOrder (strict : Bool) (a b : Datum α) : Except Fault Bool :=
  match a, b with
  | .text s, .text t => .ok (if strict then decide (s < t) else !decide (t < s))
  | .list xs, .list ys => listInOrder strict xs ys
  | a, b =>
    let r :=
      if strict then compareNumbers Arithmetic.lt Extended.lt a b
      else compareNumbers Arithmetic.le Extended.le a b
    (r.map .ok).getD (.error .mismatch)
where
  listInOrder (strict : Bool) : List (Datum α) → List (Datum α) → Except Fault Bool
    | [], [] => .ok !strict
    | [], _ => .ok true
    | _, [] => .ok false
    | x :: xs, y :: ys => if isEqual x y then listInOrder strict xs ys else inOrder strict x y

def lt (a b : Datum α) : Except Fault Bool := inOrder true a b

def le (a b : Datum α) : Except Fault Bool := inOrder false a b

/-! ## Text -/

/-- The datum as it is written inside a list or record. -/
def inner : Datum α → String
  | .missing => "None"
  | .flag b => if b then "True" else "False"
  | .whole n => toString n
  | .real x => Numeral.shortest x
  | .text s => Text.quoted s
  | .list items => "[" ++ ", ".intercalate (innerAll items) ++ "]"
  | .record fields => "\x7b" ++ ", ".intercalate (innerFields fields) ++ "\x7d"
where
  innerAll : List (Datum α) → List String
    | [] => []
    | d :: r => inner d :: innerAll r
  innerFields : List (String × Datum α) → List String
    | [] => []
    | (k, d) :: r => (Text.quoted k ++ ": " ++ inner d) :: innerFields r

/-- The text of the datum; a text is its own. -/
def toText : Datum α → String
  | .text s => s
  | d => d.inner

/-- The number with six significant digits, as log lines show it. -/
def generalText? (d : Datum α) : Option String :=
  if d.isNumber then
    match d.toNumber with
    | .ok x => some (Numeral.general 6 x)
    | .error _ => none
  else none

/-- The whole part of a number, as log lines show it. -/
def wholeText? (d : Datum α) : Option String :=
  if d.isNumber then
    match d.toWhole with
    | .ok n => some (toString n)
    | .error _ => none
  else none

end Datum

end DirectionField
