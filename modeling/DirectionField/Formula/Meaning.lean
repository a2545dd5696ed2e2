import DirectionField.Formula.Tree
import DirectionField.Algebra.Simplify
/-!
# The meaning of a formula

A formula denotes an algebraic expression, simplified as it is put together, or a value of another
kind: a truth value, a proposition that is left open, a text, a collection, a function. Only numbers
combine freely with expressions. The first operation that its operands do not admit is the fault of
the whole formula.
-/

namespace DirectionField.Formula

open DirectionField.Algebra (Expr Fn Rounded simplifier)

inductive Value where
  | expr (e : Expr)
  | bool (b : Bool)
  | nothing
  | ellipsis
  | text (s : String)
  | collection (kind : Bracket) (items : List Value)
  /-- A comparison that is not decided. -/
  | relation
  /-- A combination of propositions. -/
  | logic
  /-- A decided comparison. -/
  | truth (b : Bool)
  | function (name : String)
  | other
  deriving Inhabited

namespace Value

/-- Whether two values are equal as data. -/
protected def beq : Value → Value → Bool
  | .expr a, .expr b => a == b
  | .bool p, .bool q | .truth p, .truth q => p == q
  | .text s, .text t | .function s, .function t => s == t
  | .collection k vs, .collection l ws => k == l && beqAll vs ws
  | .nothing, .nothing | .ellipsis, .ellipsis | .relation, .relation | .logic, .logic
  | .other, .other => true
  | _, _ => false
where
  beqAll : List Value → List Value → Bool
    | [], [] => true
    | v :: vs, w :: ws => Value.beq v w && beqAll vs ws
    | _, _ => false

instance : BEq Value := ⟨Value.beq⟩

/-- Whether the value counts as true; an open comparison is neither. -/
def isTrue : Value → Except ReadFault Bool
  | .expr e => .ok (!e.isZero)
  | .bool b | .truth b => .ok b
  | .nothing => .ok false
  | .text s => .ok !s.isEmpty
  | .collection _ items => .ok !items.isEmpty
  | .relation => .error .badType
  | _ => .ok true

def int? : Value → Option Int
  | .expr e => e.int?
  | _ => none

def isBool : Value → Bool
  | .bool _ => true
  | _ => false

def bit (b : Bool) : Int := if b then 1 else 0

/-- The whole number that a truth value or a whole expression is. -/
def intOrBool? : Value → Option Int
  | .bool b => some (bit b)
  | v => v.int?

def ofInt (n : Int) : Value := .expr (.ofInt n)

/-- The remainder of expressions; a zero divisor is a fault. -/
def remainder (a b : Expr) : Except ReadFault Value :=
  if b.facts.isZero then .error .divisionByZero else .ok (.expr (simplifier.call .modulo [a, b]))

/-- The floor of a quotient. Whole numbers refuse a zero divisor, and over an infinite divisor of
the other sign their floor is minus one. -/
def floorQuotient (a b : Expr) : Except ReadFault Value :=
  if a.int?.isSome && b.isZero then .error .divisionByZero
  else if a.int?.isSome && b.isInfinite && !a.isZero && a.numberSign != b.numberSign then
    .ok (.expr .negOne)
  else .ok (.expr (simplifier.call .floor [simplifier.div a b]))

def arithmetic (op : String) (a b : Expr) : Except ReadFault Value :=
  match op with
  | "+" => .ok (.expr (simplifier.add a b))
  | "-" => .ok (.expr (simplifier.sub a b))
  | "*" => .ok (.expr (simplifier.mul a b))
  | "/" => .ok (.expr (simplifier.div a b))
  | "**" => .ok (.expr (simplifier.power a b))
  | "%" => remainder a b
  | "//" => floorQuotient a b
  | _ => .error .badType

/-- The bits of two's complement numbers combined. -/
def bitwise (f : Bool → Bool → Bool) (a b : Int) : Int :=
  let width := max (Rounded.bits a.natAbs) (Rounded.bits b.natAbs) + 1
  let modulus : Int := Nat.pow 2 width
  let x := (a % modulus).toNat
  let y := (b % modulus).toNat
  let r := Nat.bitwise f x y % Nat.pow 2 width
  if r < Nat.pow 2 (width - 1) then r else (r : Int) - modulus

/-- Whether the value may be combined by `&` and `|` with a proposition. -/
def isProposition : Value → Bool
  | .relation | .logic | .truth _ => true
  | .expr e => e.isSymbol
  | _ => false

/-- `&` and `|` of propositions. -/
def connect (isAnd : Bool) (a b : Value) : Value :=
  let constant (v : Value) : Option Bool :=
    match v with
    | .truth b | .bool b => some b
    | _ => none
  match constant a, constant b with
  | some p, some q => .truth (if isAnd then p && q else p || q)
  | some p, none => if p == isAnd then b else .truth p
  | none, some q => if q == isAnd then a else .truth q
  | none, none => if a == b && a != .relation && a != .logic then a else .logic

def shift (left : Bool) (a b : Int) : Except ReadFault Value :=
  if b < 0 then .error .badValue
  else .ok (ofInt (if left then a * Nat.pow 2 b.toNat else Int.fdiv a (Nat.pow 2 b.toNat)))

/-- A text or list repeated. -/
def repeated (v : Value) (n : Int) : Option Value :=
  match v with
  | .text s => some (.text (String.join (List.replicate n.toNat s)))
  | .collection .list vs => some (.collection .list (List.replicate n.toNat vs).flatten)
  | .collection .tuple vs => some (.collection .tuple (List.replicate n.toNat vs).flatten)
  | _ => none

def binary (op : String) (a b : Value) : Except ReadFault Value :=
  match op with
  | "&" | "|" =>
    match a, b with
    | .expr x, .expr y =>
      match x.int?, y.int? with
      | some m, some n => .ok (ofInt (bitwise (if op == "&" then (· && ·) else (· || ·)) m n))
      | _, _ => if x.isSymbol && y.isSymbol then .ok (connect (op == "&") a b) else .error .badType
    | .bool p, .bool q => .ok (.bool (if op == "&" then p && q else p || q))
    | .collection .set xs, .collection .set ys =>
      .ok (.collection .set (if op == "&" then xs.filter ys.contains else xs ++ ys))
    | _, _ =>
      if (a.isProposition || a.isBool) && (b.isProposition || b.isBool) then
        .ok (connect (op == "&") a b)
      else .error .badType
  | "<<" | ">>" =>
    match a.intOrBool?, b.intOrBool? with
    | some m, some n =>
      if a.isBool && b.isBool then (shift (op == "<<") m n).map fun _ => .other
      else shift (op == "<<") m n
    | _, _ => .error .badType
  | _ =>
    match a, b with
    | .expr x, .expr y => arithmetic op x y
    | .bool p, .bool q =>
      if ["/", "//", "%"].contains op && !q then .error .divisionByZero
      else if op == "@" then .error .badType
      else if op == "**" && !p && !q then .ok .other
      else .ok .other
    | .text s, .text t => if op == "+" then .ok (.text (s ++ t)) else .error .badType
    | .collection k xs, .collection l ys =>
      if op == "+" && k == l && (k == .list || k == .tuple) then .ok (.collection k (xs ++ ys))
      else if op == "-" && k == .set && l == .set then
        .ok (.collection .set (xs.filter fun x => !ys.contains x))
      else .error .badType
    | _, _ =>
      if a.isBool || b.isBool then
        match a.intOrBool?, b.intOrBool? with
        | some m, some n =>
          if ["+", "-", "*"].contains op then arithmetic op (.ofInt m) (.ofInt n)
          else if op == "%" && b.isBool then arithmetic op (.ofInt m) (.ofInt n)
          else .error .badType
        | _, _ => .error .badType
      else if op == "*" then
        match (b.int?.bind (repeated a)), (a.int?.bind (repeated b)) with
        | some v, _ => .ok v
        | none, some v => .ok v
        | none, none => .error .badType
      else .error .badType

def unary (op : String) (a : Value) : Except ReadFault Value :=
  match op, a with
  | "-", .expr e => .ok (.expr (simplifier.neg e))
  | "+", .expr e => .ok (.expr e)
  | "~", .expr e =>
    match e.int? with
    | some n => .ok (ofInt (-n - 1))
    | none => if e.isSymbol then .ok .logic else .error .badType
  | "~", .truth b => .ok (.truth !b)
  | "~", .relation => .ok .relation
  | "~", .logic => .ok .logic
  | _, .bool _ => .ok .other
  | _, _ => .error .badType

/-- An inequality between expressions; both have to be real. -/
def inequality (op : String) (a b : Expr) : Except ReadFault Value :=
  if a.isUndefined || b.isUndefined || a.facts.real == some false || b.facts.real == some false then
    .error .badType
  else
    let d := (simplifier.sub b a).facts
    let decided :=
      if a == b then some (op == "<=" || op == ">=")
      else
        match op with
        | "<" => d.positive
        | "<=" => d.nonnegative
        | ">" => d.negative
        | _ => d.nonpositive
    match decided with
    | some v => .ok (if d.isReal || a == b then .truth v else .relation)
    | none => .ok .relation

/-- One comparison. -/
def compare (op : String) (a b : Value) : Except ReadFault Value :=
  match op with
  | "==" => .ok (.bool (a == b))
  | "!=" => .ok (.bool (a != b))
  | "is" => .ok (.bool (a == b))
  | "is not" => .ok (.bool (a != b))
  | "in" | "not in" =>
    match a, b with
    | _, .collection _ items => .ok (.bool (items.contains a == (op == "in")))
    | .text s, .text t => .ok (.bool (((t.splitOn s).length != 1) == (op == "in")))
    | _, _ => .error .badType
  | _ =>
    match a, b with
    | .expr x, .expr y => inequality op x y
    | .bool p, .bool q =>
      .ok (.bool (match op with
        | "<" => !p && q
        | "<=" => !p || q
        | ">" => p && !q
        | _ => p || !q))
    | .text s, .text t =>
      .ok (.bool (match op with
        | "<" => decide (s < t)
        | "<=" => decide (¬ t < s)
        | ">" => decide (t < s)
        | _ => decide (¬ s < t)))
    | .collection .set _, .collection .set _ => .ok (.bool false)
    | _, _ => .error .badType

/-- The functions with a name, and how many arguments each takes. -/
def functions : List (String × Fn × Nat × Nat) :=
  [("sin", .sin, 1, 1), ("cos", .cos, 1, 1), ("tan", .tan, 1, 1), ("asin", .asin, 1, 1),
    ("acos", .acos, 1, 1), ("atan", .atan, 1, 1), ("sinh", .sinh, 1, 1), ("cosh", .cosh, 1, 1),
    ("tanh", .tanh, 1, 1), ("exp", .exp, 1, 1), ("log", .log, 1, 2), ("ln", .log, 1, 2),
    ("abs", .abs, 1, 1), ("Abs", .abs, 1, 1), ("factorial", .factorial, 1, 1),
    ("factorial2", .doubleFactorial, 1, 1), ("floor", .floor, 1, 1)]

/-- The power of whole numbers modulo a third. -/
def powMod (a b m : Int) : Except ReadFault Value :=
  if m == 0 then .error .badValue
  else if b < 0 then .error .badValue
  else .ok (ofInt (Int.fmod (go (Rounded.bits b.toNat) (Int.fmod a m) b.toNat 1) m))
where
  go (fuel : Nat) (square : Int) (n : Nat) (acc : Int) : Int :=
    match fuel with
    | 0 => acc
    | fuel + 1 =>
      go fuel (Int.fmod (square * square) m) (n / 2)
        (if n % 2 == 1 then Int.fmod (acc * square) m else acc)

/-- The expressions among the arguments of a function, all of them. -/
def expressions (args : List Value) : Except ReadFault (List Expr) :=
  args.mapM fun v =>
    match v with
    | .expr e => .ok e
    | .function _ => .error .badType
    | _ => .error .noAttribute

/-- A function of two expressions. -/
def ofTwo (f : Expr → Expr → Except ReadFault Value) (a b : Value) : Except ReadFault Value := do
  match ← expressions [a, b] with
  | [a, b] => f a b
  | _ => .error .badType

/-- The application of a function with a name. -/
def applyNamed (name : String) (args : List Value) : Except ReadFault Value :=
  match name, args with
  | "sqrt", [a] | "sqrt", [a, _] => do
    match ← expressions [a] with
    | [e] => return .expr (simplifier.sqrt e)
    | _ => .error .badType
  | "pow", [a, b] => binary "**" a b
  | "pow", [a, b, m] =>
    match a.int?, b.int?, m.int? with
    | some x, some y, some z => powMod x y z
    | _, _, _ => .error .badType
  | "Pow", [a, b] => ofTwo (arithmetic "**") a b
  | "Mod", [a, b] => ofTwo remainder a b
  | "root", [a, n] => ofTwo (fun a n => arithmetic "**" a (simplifier.div .one n)) a n
  | "cbrt", [a] => do
    match ← expressions [a] with
    | [e] => return .expr (simplifier.power e (.rational (mkRat 1 3)))
    | _ => .error .badType
  | "max", args | "Max", args =>
    return .expr (simplifier.call .maximum (← expressions args))
  | "min", args | "Min", args =>
    return .expr (simplifier.call .minimum (← expressions args))
  | _, _ =>
    match functions.lookup name with
    | some (f, least, most) =>
      if args.length < least || most < args.length then .error .badType
      else do
        let es ← expressions args
        if f == .doubleFactorial && es.any Algebra.Integral.lacksDoubleFactorial then .error .badValue
        else return .expr (simplifier.call f es)
    | none => .error .badType

/-- The symbol that a declaration makes, whose arguments may have names: a text is the name of the
symbol, and it may be said to be real. -/
def declare (names : List (Option String)) (args : List Value) : Except ReadFault Value :=
  match names, args with
  | [none], [.text s] => .ok (.expr (.symbol (.named s)))
  | [none, some "real"], [.text s, .bool true] => .ok (.expr (.symbol ⟨s, true⟩))
  | _, _ => .error .badType

/-- The application of a function without a definition; an argument that is no expression is only
told apart from the others by its place. -/
def applyUnknown (name : String) (args : List Value) : Except ReadFault Value :=
  if args.any fun v => v matches .function _ then .error .badType
  else
    .ok (.expr (.unknown name (args.mapIdx fun i v =>
      match v with
      | .expr e => e
      | _ => .unknown name [.ofInt i])))

/-- A member of a collection. -/
def member (v : Value) (items : List Value) : Except ReadFault Value :=
  let pick (n : Nat) (at? : Nat → Option Value) (i : Int) : Except ReadFault Value :=
    let j := if i < 0 then i + n else i
    if j < 0 then .error .badIndex
    else
      match at? j.toNat with
      | some w => .ok w
      | none => .error .badIndex
  match v, items.map intOrBool? with
  | .collection .list vs, [some i] | .collection .tuple vs, [some i] =>
    pick vs.length (fun j => vs[j]?) i
  | .text s, [some i] =>
    let cs := s.toList
    pick cs.length (fun j => (cs[j]?).map fun c => .text (String.singleton c)) i
  | _, _ => .error .badType

/-- Whether a value may be an element of a set. -/
def isHashable : Value → Bool
  | .collection .tuple _ => true
  | .collection .. => false
  | _ => true

/-- What a name stands for. -/
def ofName (s : String) : Value :=
  match s with
  | "x" => .expr (.symbol .x)
  | "y" => .expr (.symbol .y)
  | "pi" => .expr .pi
  | "E" | "e" => .expr (.constant .e)
  | "I" => .expr .imaginaryUnit
  | "oo" => .expr .infinity
  | "nan" => .expr .undefined
  | "zoo" => .expr .complexInfinity
  | "None" => .nothing
  | "True" => .bool true
  | "False" => .bool false
  | _ => if Token.knownNames.contains s then .function s else .expr (.symbol (.named s))

/-- A decimal literal, as precise as its digits and at least to 15 of them. -/
def ofDecimal (m : Nat) (k : Int) (digits : Nat) : Value :=
  let p := Rounded.precisionFor (max 15 digits)
  -- far beyond every exponent of interest the power of ten is cut
  let k := if k > 100000 then 100000 else if k < -100000 then -100000 else k
  .expr (.rounded (if 0 ≤ k then Rounded.ofQuotient (m * Nat.pow 10 k.toNat) 1 p
    else Rounded.ofQuotient m (Nat.pow 10 (-k).toNat) p))

end Value

namespace Tree

/-- The value of a tree, operands from left to right. -/
def value (t : Tree) : Except ReadFault Value :=
  match t with
  | .whole n => .ok (.ofInt n)
  | .decimal m k d => .ok (.ofDecimal m k d)
  | .repeating q => .ok (.expr (.rational q))
  | .name s => .ok (.ofName s)
  | .text s => .ok (.text s)
  | .ellipsis => .ok .ellipsis
  | .unary op a => do Value.unary op (← value a)
  | .binary op a b => do
    let v ← value a
    let w ← value b
    Value.binary op v w
  | .compare first rest => do chain (← value first) rest
  | .conj a b => do
    let v ← value a
    if ← v.isTrue then value b else return v
  | .disj a b => do
    let v ← value a
    if ← v.isTrue then return v else value b
  | .negation a => do return .bool !(← (← value a).isTrue)
  | .conditional c a b => do
    if ← (← value c).isTrue then value a else value b
  | .call (.name s) args positional => do
    if Token.isFixedName (.name s) then
      match Value.ofName s with
      | .function f => do
        let vs ← values args
        if f == "Symbol" then Value.declare (args.map argumentName?) vs
        else if positional then Value.applyNamed f vs
        else .error .badType
      | _ => do
        let _ ← values args
        .error .badType
    else
      let vs ← values args
      if positional then Value.applyUnknown s vs else .error .badType
  | .call f args _ => do
    let _ ← value f
    let _ ← values args
    .error .badType
  | .attribute a _ => do
    let _ ← value a
    .error .noAttribute
  | .index a items => do
    let v ← value a
    let vs ← values items
    v.member vs
  | .collection kind items => do
    let vs ← values items
    match kind with
    | .set => if vs.all Value.isHashable then return .collection kind vs else .error .badType
    | _ => return .collection kind vs
  | .unpacked a => do
    let _ ← value a
    .error .badType
  | .named _ a => value a
  | .abstraction _ _ => .ok (.function "lambda")
where
  values : List Tree → Except ReadFault (List Value)
    | [] => .ok []
    | t :: r => do
      let v ← value t
      let vs ← values r
      return v :: vs
  /-- A chain of comparisons holds as far as each one does. -/
  chain (v : Value) : List (String × Tree) → Except ReadFault Value
    | [] => .ok v
    | (op, t) :: rest => do
      let w ← value t
      let c ← Value.compare op v w
      match rest with
      | [] => return c
      | _ => if ← c.isTrue then chain w rest else return c

/-- The symbol that a name stands for. -/
def symbol? (name : String) : Option Symbol :=
  match Value.ofName name with
  | .expr (.symbol s) => some s
  | _ => none

/-- The value of a whole formula, which may be an abstraction over symbols. -/
def meaning (t : Tree) : Except ReadFault Value :=
  match t with
  | .abstraction params body => do
    match ← value body, params.mapM symbol? with
    | .expr e, some bound => return .expr (.abstraction bound e)
    | _, _ => .error .badType
  | t => value t

end Tree

/-- The value of the text of a formula. -/
def read (s : String) : Except ReadFault Value := do
  (← Tree.ofTokens (← Token.ofFormula s)).meaning

end DirectionField.Formula
