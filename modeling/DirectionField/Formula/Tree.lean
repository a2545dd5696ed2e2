import DirectionField.Formula.Token
/-!
# The form of a formula

The tree that a formula's tokens form by the precedence of the operators: conditional, `or`, `and`,
`not`, comparisons, the bitwise operators, shifts, sums, products, signs, powers, and last calls,
attributes and indices. A power binds to the right and more tightly than a sign on its left.
-/

namespace DirectionField.Formula

/-- Kinds of collections. -/
inductive Bracket where
  | tuple | list | set | table
  deriving DecidableEq, Repr

inductive Tree where
  | whole (n : Nat)
  | decimal (mantissa : Nat) (exponent : Int) (digits : Nat)
  | repeating (q : Rat)
  | name (s : String)
  | text (s : String)
  | ellipsis
  | unary (op : String) (a : Tree)
  | binary (op : String) (a b : Tree)
  | compare (first : Tree) (rest : List (String × Tree))
  | conj (a b : Tree)
  | disj (a b : Tree)
  | negation (a : Tree)
  | conditional (test a b : Tree)
  /-- A call; `positional` is false when an argument is named or unpacked. -/
  | call (f : Tree) (args : List Tree) (positional : Bool)
  | attribute (a : Tree) (name : String)
  | index (a : Tree) (items : List Tree)
  | collection (kind : Bracket) (items : List Tree)
  | unpacked (a : Tree)
  /-- An argument with its name; one that holds named arguments has the name `**`. -/
  | named (name : String) (a : Tree)
  | abstraction (params : List String) (body : Tree)
  deriving Repr, Inhabited

namespace Tree

/-- The binary operators that group to the left, loosest first. -/
def levels : List (List String) :=
  [["|"], ["^"], ["&"], ["<<", ">>"], ["+", "-"], ["*", "/", "//", "%", "@"]]

/-- A comparison operator at the front. -/
def comparison? : List Token → Option (String × List Token)
  | .op o :: r => if ["==", "!=", "<", "<=", ">", ">="].contains o then some (o, r) else none
  | .name "in" :: r => some ("in", r)
  | .name "not" :: .name "in" :: r => some ("not in", r)
  | .name "is" :: .name "not" :: r => some ("is not", r)
  | .name "is" :: r => some ("is", r)
  | _ => none

/-- An operator of the level at the front. -/
def operator? (ops : List String) : List Token → Option (String × List Token)
  | .op o :: r => if ops.contains o then some (o, r) else none
  | _ => none

/-- The parameters of an abstraction, up to the colon. -/
def parameters (ts : List Token) : Option (List String × List Token) :=
  match ts with
  | .op ":" :: r => some ([], r)
  | .name s :: .op ":" :: r => if Token.keywords.contains s then none else some ([s], r)
  | .name s :: .op "," :: r =>
    if Token.keywords.contains s then none
    else (parameters r).map fun (ps, rest) => (s :: ps, rest)
  | _ => none

def expect (o : String) : List Token → Option (List Token)
  | .op p :: r => if p == o then some r else none
  | _ => none

mutual

/-- A conditional or an abstraction. -/
def test (fuel : Nat) (ts : List Token) : Option (Tree × List Token) :=
  match fuel with
  | 0 => none
  | fuel + 1 =>
    match ts with
    | .name "lambda" :: r => do
      let (ps, r) ← parameters r
      let (body, r) ← test fuel r
      return (.abstraction ps body, r)
    | _ => do
      let (a, r) ← disjunction fuel ts
      match r with
      | .name "if" :: r => do
        let (c, r) ← disjunction fuel r
        match r with
        | .name "else" :: r => do
          let (b, r) ← test fuel r
          return (.conditional c a b, r)
        | _ => none
      | _ => return (a, r)

def disjunction (fuel : Nat) (ts : List Token) : Option (Tree × List Token) :=
  match fuel with
  | 0 => none
  | fuel + 1 => do
    let (a, r) ← conjunction fuel ts
    match r with
    | .name "or" :: r => do
      let (b, r) ← disjunction fuel r
      return (.disj a b, r)
    | _ => return (a, r)

def conjunction (fuel : Nat) (ts : List Token) : Option (Tree × List Token) :=
  match fuel with
  | 0 => none
  | fuel + 1 => do
    let (a, r) ← inversion fuel ts
    match r with
    | .name "and" :: r => do
      let (b, r) ← conjunction fuel r
      return (.conj a b, r)
    | _ => return (a, r)

def inversion (fuel : Nat) (ts : List Token) : Option (Tree × List Token) :=
  match fuel with
  | 0 => none
  | fuel + 1 =>
    match ts with
    | .name "not" :: r => do
      let (a, r) ← inversion fuel r
      return (.negation a, r)
    | _ => do
      let (a, r) ← leveled fuel levels ts
      let (rest, r) ← comparisons fuel r
      return (if rest.isEmpty then a else .compare a rest, r)

def comparisons (fuel : Nat) (ts : List Token) : Option (List (String × Tree) × List Token) :=
  match fuel with
  | 0 => none
  | fuel + 1 =>
    match comparison? ts with
    | none => some ([], ts)
    | some (o, r) => do
      let (b, r) ← leveled fuel levels r
      let (rest, r) ← comparisons fuel r
      return ((o, b) :: rest, r)

/-- An operand of the first level given, all further ones binding more tightly. -/
def leveled (fuel : Nat) (ls : List (List String)) (ts : List Token) : Option (Tree × List Token) :=
  match fuel with
  | 0 => none
  | fuel + 1 =>
    match ls with
    | [] => signed fuel ts
    | ops :: tighter => do
      let (a, r) ← leveled fuel tighter ts
      continued fuel ops tighter a r

/-- The operands that follow on one level. -/
def continued (fuel : Nat) (ops : List String) (tighter : List (List String)) (a : Tree)
    (ts : List Token) : Option (Tree × List Token) :=
  match fuel with
  | 0 => none
  | fuel + 1 =>
    match operator? ops ts with
    | none => some (a, ts)
    | some (o, r) => do
      let (b, r) ← leveled fuel tighter r
      continued fuel ops tighter (.binary o a b) r

def signed (fuel : Nat) (ts : List Token) : Option (Tree × List Token) :=
  match fuel with
  | 0 => none
  | fuel + 1 =>
    match operator? ["+", "-", "~"] ts with
    | some (o, r) => do
      let (a, r) ← signed fuel r
      return (.unary o a, r)
    | none => do
      let (a, r) ← atom fuel ts
      let (a, r) ← trailers fuel a r
      match r with
      | .op "**" :: r => do
        let (b, r) ← signed fuel r
        return (.binary "**" a b, r)
      | _ => return (a, r)

/-- Calls, attributes and indices after an operand. -/
def trailers (fuel : Nat) (a : Tree) (ts : List Token) : Option (Tree × List Token) :=
  match fuel with
  | 0 => none
  | fuel + 1 =>
    match ts with
    | .op "." :: .name s :: r =>
      if Token.keywords.contains s then none else trailers fuel (.attribute a s) r
    -- a number has a name too
    | .op "." :: .whole n _ :: r => trailers fuel (.attribute a (toString n)) r
    | .op "." :: .decimal m .. :: r => trailers fuel (.attribute a (toString m)) r
    | .op "." :: .repeating _ :: r => trailers fuel (.attribute a "") r
    | .op "(" :: r => do
      let (args, positional, r) ← arguments fuel r
      trailers fuel (.call a args positional) r
    | .op "[" :: r => do
      let (items, _, r) ← items fuel "]" r
      if items.isEmpty then none else trailers fuel (.index a items) r
    | _ => some (a, ts)

def atom (fuel : Nat) (ts : List Token) : Option (Tree × List Token) :=
  match fuel with
  | 0 => none
  | fuel + 1 =>
    match ts with
    | .whole n _ :: r => some (.whole n, r)
    | .decimal m k d _ :: r => some (.decimal m k d, r)
    | .repeating q :: r => some (.repeating q, r)
    | .text s :: .text t :: r => atom fuel (.text (s ++ t) :: r)
    | .text s :: r => some (.text s, r)
    | .op "..." :: r => some (.ellipsis, r)
    | .op "(" :: r => do
      let (es, comma, r) ← items fuel ")" r
      match es with
      | [.unpacked _] => if comma then some (.collection .tuple es, r) else none
      | [e] => some (if comma then .collection .tuple es else e, r)
      | _ => some (.collection .tuple es, r)
    | .op "[" :: r => do
      let (es, _, r) ← items fuel "]" r
      return (.collection .list es, r)
    | .op "\x7b" :: r => braces fuel r
    | .name s :: r =>
      if ["None", "True", "False"].contains s || !Token.keywords.contains s then some (.name s, r)
      else none
    | _ => none

/-- The elements between brackets, and whether a comma followed the last one. -/
def items (fuel : Nat) (closing : String) (ts : List Token) :
    Option (List Tree × Bool × List Token) :=
  match fuel with
  | 0 => none
  | fuel + 1 =>
    match expect closing ts with
    | some r => some ([], false, r)
    | none => do
      let (a, r) ← element fuel ts
      match expect closing r, expect "," r with
      | some r, _ => return ([a], false, r)
      | none, some r => do
        let (es, comma, r) ← items fuel closing r
        return (a :: es, comma || es.isEmpty, r)
      | none, none => none

/-- One element: an unpacked collection, a named value, or a conditional. -/
def element (fuel : Nat) (ts : List Token) : Option (Tree × List Token) :=
  match fuel with
  | 0 => none
  | fuel + 1 =>
    match ts with
    | .op "*" :: r => do
      let (a, r) ← leveled fuel levels r
      return (.unpacked a, r)
    | .name s :: .op ":=" :: r =>
      if Token.isFixedName (.name s) && !Token.keywords.contains s then test fuel r else none
    | _ => test fuel ts

/-- A set, or a table of keys and values. -/
def braces (fuel : Nat) (ts : List Token) : Option (Tree × List Token) :=
  match fuel with
  | 0 => none
  | fuel + 1 =>
    match expect "\x7d" ts with
    | some r => some (.collection .table [], r)
    | none => do
      let (a, r) ← element fuel ts
      match r with
      | .op ":" :: _ => do
        let (es, r) ← entries fuel ts
        return (.collection .table es, r)
      | _ =>
        match expect "\x7d" r, expect "," r with
        | some r, _ => return (.collection .set [a], r)
        | none, some r => do
          let (es, _, r) ← items fuel "\x7d" r
          return (.collection .set (a :: es), r)
        | none, none => none

/-- The keys and values of a table, in one list. -/
def entries (fuel : Nat) (ts : List Token) : Option (List Tree × List Token) :=
  match fuel with
  | 0 => none
  | fuel + 1 =>
    match expect "\x7d" ts with
    | some r => some ([], r)
    | none => do
      let (k, r) ← test fuel ts
      let r ← expect ":" r
      let (v, r) ← test fuel r
      match expect "\x7d" r, expect "," r with
      | some r, _ => return ([k, v], r)
      | none, some r => do
        let (es, r) ← entries fuel r
        return (k :: v :: es, r)
      | none, none => none

/-- The arguments of a call, and whether all are positional. -/
def arguments (fuel : Nat) (ts : List Token) : Option (List Tree × Bool × List Token) :=
  match fuel with
  | 0 => none
  | fuel + 1 =>
    match expect ")" ts with
    | some r => some ([], true, r)
    | none => do
      let (name?, start) := match ts with
        | .name s :: .op "=" :: r => if Token.keywords.contains s then (none, ts) else (some s, r)
        | .op "**" :: r => (some "**", r)
        | _ => (none, ts)
      let (a, r) ← element fuel start
      let positional := name?.isNone && !(a matches .unpacked _)
      let a := match name? with
        | some s => .named s a
        | none => a
      match expect ")" r, expect "," r with
      | some r, _ => return ([a], positional, r)
      | none, some r => do
        let (as, all, r) ← arguments fuel r
        return (a :: as, positional && all, r)
      | none, none => none

end

/-- The bracket depth that a formula may reach; numbers and new names count as one more level. -/
def depthLimit : Int := 200

/-- Whether the brackets nest too deeply. -/
def tooDeep (ts : List Token) : Bool :=
  (ts.foldl (fun (acc : Int × Bool) t =>
    match t with
    | .op o =>
      let d := Token.nesting acc.1 o
      (d, acc.2 || depthLimit < d)
    | .whole .. | .decimal .. | .repeating _ => (acc.1, acc.2 || depthLimit < acc.1 + 1)
    | .name _ => (acc.1, acc.2 || (!Token.isFixedName t && depthLimit < acc.1 + 1))
    | _ => acc) (0, false)).2

/-- The lines of a formula that hold tokens. -/
def lines (ts : List Token) : List (List Token) :=
  (ts.foldr (fun t acc =>
    match t, acc with
    | .lineEnd, acc => [] :: acc
    | t, l :: rest => (t :: l) :: rest
    | t, [] => [[t]]) [[]]).filter fun l => !l.isEmpty

/-- Several expressions with commas between them form a tuple. -/
def tupleOrOne (fuel : Nat) (ts : List Token) : Option Tree :=
  -- a closing bracket put at the end lets the elements be read as between brackets
  match items fuel ")" (ts ++ [.op ")"]) with
  | some ([.unpacked _], false, []) => none
  | some ([e], false, []) => some e
  | some ([], _, _) => none
  | some (es, _, []) => some (.collection .tuple es)
  | _ => none

/-- The tree of a formula on one line. -/
def ofTokens (ts : List Token) : Except ReadFault Tree :=
  match lines ts with
  | [l] =>
    if tooDeep l then .error .badSyntax
    else
      -- a value is named only between brackets
      match l with
      | .name _ :: .op ":=" :: _ => .error .badSyntax
      | _ =>
        match tupleOrOne (40 * (l.length + 2)) l with
        | some t => .ok t
        | none => .error .badSyntax
  | _ => .error .badSyntax

/-- The name that an argument is given by. -/
def argumentName? : Tree → Option String
  | .named s _ => some s
  | _ => none

end Tree

end DirectionField.Formula
