import DirectionField.Text.Word
import DirectionField.Decimal
/-!
# Tokens of a formula

Names, numbers, quoted texts, operators and stray characters. Line ends count only outside
brackets, comments not at all. Whether brackets balance is decided here, by count alone: a formula
that ends inside brackets, or has closed more than it opened, has no tokens.
-/

namespace DirectionField.Formula

inductive Token where
  | name (s : String)
  /-- A whole number and how many decimal digits it was written with, none in another base. -/
  | whole (n digits : Nat)
  /-- A number with a point or an exponent: `mantissa · 10 ^ exponent`, its significant digits, and
  the digits after its point when it has no exponent. -/
  | decimal (mantissa : Nat) (exponent : Int) (digits : Nat) (places : Option Nat)
  /-- A number with a repeating end. -/
  | repeating (q : Rat)
  | text (s : String)
  | op (s : String)
  /-- A character that begins no token, or a blank in front of one. -/
  | stray (c : Char)
  | lineEnd
  /-- A line end inside brackets. -/
  | gap
  deriving BEq, Repr, Inhabited

/-- Why a formula cannot be read; the word for each is part of the messages. -/
inductive ReadFault where
  | badToken
  | badSyntax
  | badType
  | noAttribute
  | divisionByZero
  | badValue
  | badIndex
  deriving DecidableEq, Repr

def ReadFault.word : ReadFault → String
  | .badToken => "TokenError"
  | .badSyntax => "SyntaxError"
  | .badType => "TypeError"
  | .noAttribute => "AttributeError"
  | .divisionByZero => "ZeroDivisionError"
  | .badValue => "ValueError"
  | .badIndex => "IndexError"

/-- What is said about a fault after its word. -/
def ReadFault.note : ReadFault → String
  | .badToken => "('EOF in multi-line statement', (2, 0))"
  | .badSyntax => "invalid syntax (<string>, line 1)"
  | .badType => "unsupported operands"
  | .noAttribute => "no such attribute"
  | .divisionByZero => "division by zero"
  | .badValue => "value out of range"
  | .badIndex => "index out of range"

namespace Token

/-- The operators, longer ones before their beginnings. -/
def operators : List String :=
  ["**=", "//=", ">>=", "<<=", "...", "!=", "**", "//", ">>", "<<", ">=", "<=", "==", "->", "+=",
    "-=", "*=", "/=", "%=", "&=", "|=", "^=", "@=", ":=", "~", "\x7d", "|", "\x7b", "^", "]", "[",
    "@", ">", "=", "<", ";", ":", "/", ".", "-", ",", "+", "*", ")", "(", "&", "%"]

/-- The beginnings that make a quoted text of the quote after them. -/
def textMarks : List String := ["r", "u", "b", "f", "br", "rb", "fr", "rf"]

/-- Digits that satisfy the test, with single underscores between them (and before the first one,
if so wanted); the digits and what follows. -/
def spanDigits (test : Char → Bool) (leading : Bool) (cs : List Char) : List Char × List Char :=
  match cs with
  | c :: r =>
    if test c then
      let (ds, rest) := spanDigits test true r
      (c :: ds, rest)
    else if leading && c == '_' then
      match r with
      | d :: r' =>
        if test d then
          let (ds, rest) := spanDigits test true r'
          (d :: ds, rest)
        else ([], cs)
      | [] => ([], cs)
    else ([], cs)
  | [] => ([], [])

def digitValue (c : Char) : Nat :=
  if c.isDigit then c.toNat - '0'.toNat
  else if 'a' ≤ c && c ≤ 'f' then c.toNat - 'a'.toNat + 10
  else c.toNat - 'A'.toNat + 10

def valueOf (radix : Nat) (ds : List Char) : Nat :=
  ds.foldl (fun n c => n * radix + digitValue c) 0

/-- An exponent mark with its digits. -/
def spanExponent (cs : List Char) : Option (Int × List Char) :=
  match cs with
  | c :: r =>
    if c == 'e' || c == 'E' then
      let (negative, r) := Decimal.readSign r
      match spanDigits Char.isDigit false r with
      | ([], _) => none
      | (ds, rest) => some (if negative then -(valueOf 10 ds : Int) else valueOf 10 ds, rest)
    else none
  | [] => none

/-- The significant digits of `m · 10 ^ k`; without a point a whole number counts with all its
zeros. -/
def significance (m : Nat) (k : Int) (point : Bool) : Nat :=
  if m == 0 then 1
  else if point || k < 0 then Decimal.size m
  else Decimal.size m + min k.toNat 100000

/-- A number with a point or an exponent. -/
def spanDecimal (cs : List Char) : Option (Token × List Char) :=
  let (front, r) := spanDigits Char.isDigit false cs
  let afterPoint : Option (List Char × List Char) :=
    match r with
    | '.' :: r' =>
      let (frac, r'') := spanDigits Char.isDigit false r'
      if front.isEmpty && frac.isEmpty then none else some (frac, r'')
    | _ => none
  match afterPoint with
  | some (frac, r'') =>
    let m := valueOf 10 (front ++ frac)
    match spanExponent r'' with
    | some (k, rest) =>
      let k := k - frac.length
      some (.decimal m k (significance m k true) none, rest)
    | none =>
      let k := -(frac.length : Int)
      some (.decimal m k (significance m k true) (some frac.length), r'')
  | none =>
    if front.isEmpty then none
    else
      (spanExponent r).map fun (k, rest) =>
        let m := valueOf 10 front
        (.decimal m k (significance m k false) none, rest)

/-- A whole number: in base 16, 2 or 8 after a mark, otherwise in base ten and either zero or
without a zero in front. -/
def spanWhole (cs : List Char) : Token × List Char :=
  let based (radix : Nat) (test : Char → Bool) (r : List Char) : Option (Token × List Char) :=
    match spanDigits test true r with
    | ([], _) => none
    | (ds, rest) => some (.whole (valueOf radix ds) 0, rest)
  let marked : Option (Token × List Char) :=
    match cs with
    | '0' :: m :: r =>
      if m == 'x' || m == 'X' then
        based 16 (fun c => c.isDigit || ('a' ≤ c && c ≤ 'f') || ('A' ≤ c && c ≤ 'F')) r
      else if m == 'b' || m == 'B' then based 2 (fun c => c == '0' || c == '1') r
      else if m == 'o' || m == 'O' then based 8 (fun c => '0' ≤ c && c ≤ '7') r
      else none
    | _ => none
  match marked with
  | some t => t
  | none =>
    if cs.head? == some '0' then
      let (zeros, rest) := spanDigits (· == '0') false cs
      (.whole 0 zeros.length, rest)
    else
      let (ds, rest) := spanDigits Char.isDigit false cs
      (.whole (valueOf 10 ds) ds.length, rest)

/-- A number; one that ends in `j` is followed by a multiplication by the imaginary unit. A
number of the form `007j` has no value and leaves a stray character. -/
def spanNumber (cs : List Char) : List Token × List Char :=
  let imaginary : List Token := [.op "*", .name "I"]
  let isMark (r : List Char) : Bool := r.head? == some 'j' || r.head? == some 'J'
  let (ds, r) := spanDigits Char.isDigit false cs
  if !ds.isEmpty && isMark r then
    if ds.head? == some '0' && ds.any (· != '0') then ([.stray '0'], r.tail)
    else (.whole (valueOf 10 ds) ds.length :: imaginary, r.tail)
  else
    match spanDecimal cs with
    | some (t, rest) => if isMark rest then (t :: imaginary, rest.tail) else ([t], rest)
    | none =>
      let (t, rest) := spanWhole cs
      ([t], rest)

/-- The inside of a quoted text up to its closing quotes, and what follows. -/
def spanText (closing : List Char) (multiline : Bool) (cs : List Char) :
    Option (List Char × List Char) :=
  match cs with
  | [] => none
  | c :: r =>
    match closing.isPrefixOf? cs with
    | some rest => some ([], rest)
    | none =>
      if c == '\n' && !multiline then none
      else if c == '\\' then
        match r with
        | [] => none
        | d :: r' =>
          if d == '\n' && !multiline then none
          else (spanText closing multiline r').map fun (s, rest) => (c :: d :: s, rest)
      else (spanText closing multiline r).map fun (s, rest) => (c :: s, rest)

/-- A quoted text; `none` when it does not begin here or is not closed on the line, and a fault
when it is in triple quotes and not closed at all. -/
def spanQuoted (cs : List Char) : Except ReadFault (Option (Token × List Char)) :=
  match cs with
  | q :: r =>
    if q == '\'' || q == '"' then
      match [q, q, q].isPrefixOf? cs with
      | some inside =>
        match spanText [q, q, q] true inside with
        | some (s, rest) => .ok (some (.text (String.ofList s), rest))
        | none => .error .badToken
      | none => .ok ((spanText [q] false r).map fun (s, rest) => (.text (String.ofList s), rest))
    else .ok none
  | [] => .ok none

def spanOperator (cs : List Char) : Option (String × List Char) :=
  operators.findSome? fun o => (o.toList.isPrefixOf? cs).map fun rest => (o, rest)

/-- The depth after an operator. -/
def nesting (depth : Int) (o : String) : Int :=
  if o == "(" || o == "[" || o == "\x7b" then depth + 1
  else if o == ")" || o == "]" || o == "\x7d" then depth - 1
  else depth

def isInlineBlank (c : Char) : Bool := c == ' ' || c == '\t' || c == '\x0c'

/-- Whether a token, a comment or the end of the line begins here, with no blank in front. -/
def beginsToken (cs : List Char) : Bool :=
  match cs with
  | [] => true
  | c :: r =>
    c == '\n' || c == '\r' || c == '#' || c == '\'' || c == '"' || c.isDigit || Text.isWordChar c ||
      (c == '\\' && r.head? == some '\n') || (spanOperator cs).isSome

/-- One token, if there is one here, and what follows. -/
def next (depth : Int) (cs : List Char) : Except ReadFault (List Token × List Char) :=
  match cs with
  | [] => .ok ([], [])
  | c :: r =>
    if isInlineBlank c then
      .ok (if beginsToken (r.dropWhile isInlineBlank) then [] else [.stray c], r)
    else if c == '\n' then .ok (if depth == 0 then [.lineEnd] else [.gap], r)
    else if c == '\r' && r.head? == some '\n' then .ok ([], r)
    else if c == '\\' && r.head? == some '\n' then .ok ([], r.tail)
    else if c == '#' then .ok ([], cs.dropWhile (· != '\n'))
    else if c.isDigit || (c == '.' && r.head?.any Char.isDigit) then .ok (spanNumber cs)
    else if Text.isNameStart c then
      let word := cs.takeWhile Text.isWordChar
      let rest := cs.dropWhile Text.isWordChar
      let s := String.ofList word
      if textMarks.contains s.toLower then do
        match ← spanQuoted rest with
        | some (t, rest) => return ([t], rest)
        | none => return ([.name s], rest)
      else .ok ([.name s], rest)
    else if Text.isWordChar c then .ok ([.stray c], cs.dropWhile Text.isWordChar)
    else do
      match ← spanQuoted cs with
      | some (t, rest) => return ([t], rest)
      | none =>
        match spanOperator cs with
        | some (o, rest) => return ([.op o], rest)
        | none => return ([.stray c], r)

/-- The tokens of a formula. Each step takes at least one character. -/
def scan (fuel : Nat) (depth : Int) (cs : List Char) : Except ReadFault (List Token) :=
  match fuel, cs with
  | 0, _ => .ok []
  | _, [] => if depth == 0 then .ok [] else .error .badToken
  | fuel + 1, cs => do
    let (ts, rest) ← next depth cs
    let depth := ts.foldl (fun d t => match t with
      | .op o => nesting d o
      | _ => d) depth
    return ts ++ (← scan fuel depth rest)

/-- The tokens of a text. -/
def ofText (s : String) : Except ReadFault (List Token) :=
  let cs := s.toList
  scan (cs.length + 1) 0 cs

/-! ## Repeating digits and factorials -/

/-- The value of `m` shifted by `places` digits, followed by repeating digits `r` of a width. -/
def repeatingValue (m places r width : Nat) : Rat :=
  mkRat m (Nat.pow 10 places) + mkRat r ((Nat.pow 10 width - 1) * Nat.pow 10 places)

/-- The digits and the places of a token that repeating digits may follow. -/
def repeatable? : Token → Option (Nat × Nat)
  | .decimal m _ _ (some places) => some (m, places)
  | .op "." => some (0, 0)
  | _ => none

/-- A number with repeating digits `r` of a positive width; repeating zeros have no value. -/
def repeating? (t : Token) (r width : Nat) : Option Token :=
  if width == 0 then none
  else (repeatable? t).map fun s =>
    if r == 0 then .stray '0' else .repeating (repeatingValue s.1 s.2 r width)

/-- Joins a number with a point and digits in square brackets after it into one number with these
digits repeating. -/
def joinRepeating : List Token → List Token
  | t :: .op "[" :: .whole a w :: .op "]" :: rest =>
    match repeating? t a w with
    | some n => n :: joinRepeating rest
    | none => t :: .op "[" :: .whole a w :: .op "]" :: joinRepeating rest
  | t :: .op "[" :: .whole a w :: .whole b v :: .op "]" :: rest =>
    match repeating? t (a * Nat.pow 10 v + b) (if v == 0 then 0 else w + v) with
    | some n => n :: joinRepeating rest
    | none => t :: .op "[" :: .whole a w :: .whole b v :: .op "]" :: joinRepeating rest
  | t :: rest => t :: joinRepeating rest
  | [] => []

/-- The names that have a meaning before any equation is read. They cover elementary functions and
constants and the declaration of a symbol. Further functions of computer algebra, such as `sec`,
`sign` or `gamma`, have no meaning here; as for any other name, theirs is that of a new symbol or of
a function without a definition. -/
def knownNames : List String :=
  ["x", "y", "sin", "cos", "tan", "asin", "acos", "atan", "sinh", "cosh", "tanh", "exp", "log",
    "ln", "sqrt", "cbrt", "root", "abs", "Abs", "pi", "E", "e", "I", "oo", "nan", "zoo", "pow",
    "Pow", "Mod", "floor", "max", "Max", "min", "Min", "factorial", "factorial2", "Lambda",
    "Symbol"]

def keywords : List String :=
  ["False", "None", "True", "and", "as", "assert", "async", "await", "break", "class", "continue",
    "def", "del", "elif", "else", "except", "finally", "for", "from", "global", "if", "import",
    "in", "is", "lambda", "nonlocal", "not", "or", "pass", "raise", "return", "try", "while",
    "with", "yield"]

/-- Whether the token is a name that stands for itself rather than for a new symbol. -/
def isFixedName : Token → Bool
  | .name s => knownNames.contains s || keywords.contains s
  | _ => false

/-- Puts the last operand, in reversed order in front of `ts`, under a function: an operand is one
token or a bracketed group with the name in front of it. -/
def wrapLast (f : String) (ts : List Token) : List Token :=
  let (operand, before) := group 0 ts
  let (operand, before) :=
    match operand, before with
    | [.name s], b :: before' =>
      if isFixedName (.name s) && isFixedName b then (operand ++ [b], before')
      else (operand, before)
    | [.stray _], b :: before' | [.gap], b :: before' =>
      if isFixedName b then (operand ++ [b], before') else (operand, before)
    | [_], _ => (operand, before)
    | _, b :: before' => if isFixedName b then (operand ++ [b], before') else (operand, before)
    | _, [] => (operand, before)
  .op ")" :: operand ++ (.op "(" :: .name f :: before)
where
  group (depth : Int) : List Token → List Token × List Token
    | [] => ([], [])
    | t :: r =>
      let depth := if t == .op ")" then depth + 1 else if t == .op "(" then depth - 1 else depth
      if depth == 0 then ([t], r)
      else
        let (g, rest) := group depth r
        (t :: g, rest)

/-- Turns exclamation marks after an operand into factorials, two of them into a double one. A
mark with no operand before it, or three in a row, is a fault. -/
def applyFactorials (ts : List Token) : Except ReadFault (List Token) := do
  let step (acc : Nat × List Token) (t : Token) : Except ReadFault (Nat × List Token) :=
    if t == .stray '!' then .ok (acc.1 + 1, acc.2)
    else
      match t, acc.1 with
      | .stray _, _ => .ok (0, t :: acc.2)
      | _, 0 => .ok (0, t :: acc.2)
      | _, n => (settle n acc.2).map fun ts => (0, t :: ts)
  let (n, done) ← ts.foldlM step (0, [])
  return (← if n == 0 then .ok done else settle n done).reverse
where
  settle (n : Nat) (done : List Token) : Except ReadFault (List Token) :=
    if n > 2 then .error .badToken
    else if done.isEmpty || done.head? == some (.op "(") then .error .badToken
    else .ok (wrapLast (if n == 1 then "factorial" else "factorial2") done)

/-! ## Operators with blanks inside -/

/-- Splits a run of operator characters into the longest operators. Each takes at least one
character. -/
def splitOperators (fuel : Nat) (cs : List Char) : List Token :=
  match fuel, cs with
  | 0, _ => []
  | _, [] => []
  | fuel + 1, cs =>
    match spanOperator cs with
    | some (o, rest) => .op o :: splitOperators fuel rest
    | none => []

/-- Blanks do not separate operators: those next to each other are read as one run. -/
def joinOperators (ts : List Token) : List Token :=
  let (run, done) := ts.foldr step ([], [])
  settle run done
where
  settle (run : List Char) (done : List Token) : List Token :=
    splitOperators run.length run ++ done
  step (t : Token) (acc : List Char × List Token) : List Char × List Token :=
    match t with
    | .op o => (o.toList ++ acc.1, acc.2)
    | t => ([], t :: settle acc.1 acc.2)

/-- Whether the token is nothing but a separator. -/
def isGap : Token → Bool
  | .gap => true
  | .stray c => isInlineBlank c
  | _ => false

/-- The tokens of a formula, factorials, repeating digits and parted operators resolved. -/
def ofFormula (s : String) : Except ReadFault (List Token) := do
  let ts ← applyFactorials (joinRepeating (← ofText s))
  return (joinOperators ts).filter fun t => !isGap t

end Token

end DirectionField.Formula
