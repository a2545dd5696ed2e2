import DirectionField.Text.Blank
import DirectionField.Text.Word
/-!
# Decimal text of binary numbers

A double is decoded into an exact quotient of naturals; its digits are then chosen in exact
arithmetic. Two choices of digits are offered, a given number of significant digits (a half goes
to the even neighbour) and the fewest digits that read back as the same double, and a record says
how the chosen digits are laid out. Reading goes the other way.
-/

namespace DirectionField

/-- What a double stands for: a finite one is `± mantissa · 2 ^ exponent`. -/
inductive Binary where
  | nan
  | infinite (negative : Bool)
  | finite (negative : Bool) (mantissa : Nat) (exponent : Int)

/-- The parts of a double, read off its bits. -/
def Binary.ofFloat (x : Float) : Binary :=
  let bits := x.toBits.toNat
  let negative := bits / Nat.pow 2 63 == 1
  let e : Nat := bits / Nat.pow 2 52 % 2048
  let m : Nat := bits % Nat.pow 2 52
  if e == 2047 then if m == 0 then .infinite negative else .nan
  else if e == 0 then .finite negative m (-1074)
  else .finite negative (m + Nat.pow 2 52) ((e : Int) - 1075)

namespace Decimal

/-- Decimal digits with the place of the first: `0.d₁d₂… · 10 ^ (place + 1)`. -/
structure Digits where
  digits : List Char
  place : Int

/-- The number of decimal digits of `n`. -/
def size (n : Nat) : Nat := (Nat.toDigits 10 n).length

/-- `num / den` rounded to a natural number, a half going to the even neighbour. -/
def roundHalfEven (num den : Nat) : Nat :=
  let q := num / den
  let r := num % den
  if 2 * r < den then q else if den < 2 * r then q + 1 else if q % 2 == 0 then q else q + 1

/-- `num / den` rounded to a natural number, a half going up. -/
def roundHalfUp (num den : Nat) : Nat := (2 * num + den) / (2 * den)

/-- `num / den · 10 ^ k` as a quotient of naturals. -/
def scale (num den : Nat) (k : Int) : Nat × Nat :=
  if 0 ≤ k then (num * Nat.pow 10 k.toNat, den) else (num, den * Nat.pow 10 (-k).toNat)

/-- The place of the leading digit of `num / den`, for positive `num` and `den`. -/
def leadingPlace (num den : Nat) : Int :=
  let k : Int := (size num : Int) - size den
  let s := scale num den (-k)
  if s.1 < s.2 then k - 1 else k

/-- The first `n` digits of a positive `num / den`, the last one rounded by `round`. -/
def significantBy (round : Nat → Nat → Nat) (n num den : Nat) : Digits :=
  let k := leadingPlace num den
  let s := scale num den ((n : Int) - 1 - k)
  let d := round s.1 s.2
  if d < Nat.pow 10 n then ⟨Nat.toDigits 10 d, k⟩ else ⟨Nat.toDigits 10 (d / 10), k + 1⟩

/-- The digits without the zeros at their end. -/
def dropTrailingZeros (ds : List Char) : List Char :=
  (ds.reverse.dropWhile (· == '0')).reverse

/-- The exact quotient `mantissa · 2 ^ exponent`. -/
def quotient (m : Nat) (e : Int) : Nat × Nat :=
  if 0 ≤ e then (m * Nat.pow 2 e.toNat, 1) else (m, Nat.pow 2 (-e).toNat)

/-- Whether `a / b` lies among the reals that round to the double `m · 2 ^ e`: half-way to its
neighbours, the ends included when `m` is even. Below a power of two the gap is half as wide. -/
def readsBack (m : Nat) (e : Int) (a b : Nat) : Bool :=
  let lowGap : Nat := if m == Nat.pow 2 52 && e != -1074 then 1 else 2
  let low := quotient (4 * m - lowGap) (e - 2)
  let high := quotient (4 * m + 2) (e - 2)
  if m % 2 == 0 then decide (low.1 * b ≤ a * low.2) && decide (a * high.2 ≤ high.1 * b)
  else decide (low.1 * b < a * low.2) && decide (a * high.2 < high.1 * b)

/-- The nearest of the two `n`-digit neighbours of a positive double that reads back as it. -/
def shortestAt (m : Nat) (e : Int) (n : Nat) : Option Digits :=
  let v := quotient m e
  let k := leadingPlace v.1 v.2
  let s := scale v.1 v.2 ((n : Int) - 1 - k)
  let below := s.1 / s.2
  let hit (d : Nat) : Bool :=
    let back := scale d 1 (k - n + 1)
    readsBack m e back.1 back.2
  let near := roundHalfEven s.1 s.2
  let far := if near == below then below + 1 else below
  let pick := if hit near then some near else if hit far then some far else none
  pick.map fun d =>
    if d < Nat.pow 10 n then ⟨Nat.toDigits 10 d, k⟩ else ⟨Nat.toDigits 10 (d / 10), k + 1⟩

/-- The fewest digits that read back as the positive double `m · 2 ^ e`. -/
def shortestDigits (m : Nat) (e : Int) : Digits :=
  let v := quotient m e
  ((List.range 17).findSome? fun n => shortestAt m e (n + 1)).getD
    (significantBy roundHalfEven 17 v.1 v.2)

/-- How chosen digits are laid out. -/
structure Layout where
  /-- Whether a number with this leading place is written without an exponent. -/
  positional : Int → Bool
  /-- Whether a whole number in positional form ends in `.0`. -/
  wholeMark : Bool
  /-- Whether zeros at the end of the digits are dropped. -/
  dropZeros : Bool

/-- The exponent with its sign and at least two digits. -/
def exponentText (k : Int) : String :=
  let ds := Nat.toDigits 10 k.natAbs
  (if k < 0 then "e-" else "e+") ++ String.ofList (if ds.length < 2 then '0' :: ds else ds)

/-- The text of chosen digits. -/
def layOut (l : Layout) (d : Digits) : String :=
  let ds := if l.dropZeros then dropTrailingZeros d.digits else d.digits
  let ds := if ds.isEmpty then ['0'] else ds
  if l.positional d.place then
    if d.place < 0 then
      "0." ++ String.ofList (List.replicate (-d.place - 1).toNat '0' ++ ds)
    else
      let n := d.place.toNat + 1
      let whole := ds.take n ++ List.replicate (n - ds.length) '0'
      let rest := ds.drop n
      if rest.isEmpty then String.ofList whole ++ (if l.wholeMark then ".0" else "")
      else String.ofList whole ++ "." ++ String.ofList rest
  else
    let rest := ds.drop 1
    String.ofList (ds.take 1) ++ (if rest.isEmpty then "" else "." ++ String.ofList rest) ++
      exponentText d.place

/-- A double with its sign, the given digits of its absolute value and the usual words for the
values that are not finite. -/
def render (l : Layout) (choose : Nat → Int → Digits) (x : Float) : String :=
  match Binary.ofFloat x with
  | .nan => "nan"
  | .infinite negative => if negative then "-inf" else "inf"
  | .finite negative m e =>
    (if negative then "-" else "") ++
      layOut l (if m == 0 then ⟨['0'], 0⟩ else choose m e)

/-- At most `precision` significant digits, none of them a zero at the end; positional when the
leading place is at least -4 and below the precision. -/
def general (precision : Nat) (x : Float) : String :=
  let p := max precision 1
  render ⟨fun k => decide (-4 ≤ k ∧ k < p), false, true⟩
    (fun m e => let v := quotient m e; significantBy roundHalfEven p v.1 v.2) x

/-- The fewest digits that read back; positional when the leading place is at least -4 and below
16, a whole number then ending in `.0`. -/
def shortest (x : Float) : String :=
  render ⟨fun k => decide (-4 ≤ k ∧ k < 16), true, true⟩ shortestDigits x

/-- The double nearest to `± m · 10 ^ k`. -/
def toFloat (negative : Bool) (m : Nat) (k : Int) : Float :=
  let n : Int := size m
  let x : Float :=
    if m == 0 || n + k < -400 then 0.0
    else if n + k > 400 then 1.0 / 0.0
    else if 0 ≤ k then Float.ofScientific (m * Nat.pow 10 k.toNat) false 0
    else Float.ofScientific m true (-k).toNat
  if negative then -x else x

/-! ## Reading -/

/-- The digits at the front of a text, single underscores allowed between two of them; `none`
when there is no digit in front or an underscore is misplaced. The answer holds the number of
digits, their value and what follows. -/
def readDigits (cs : List Char) : Option (Nat × Nat × List Char) :=
  match cs with
  | [] => none
  | c :: r => (Text.decimalDigit? c).bind fun d => go 1 d r
where
  go (count value : Nat) : List Char → Option (Nat × Nat × List Char)
    | [] => some (count, value, [])
    | c :: r =>
      match Text.decimalDigit? c with
      | some d => go (count + 1) (value * 10 + d) r
      | none =>
        if c == '_' then
          match r with
          | d :: r' => (Text.decimalDigit? d).bind fun v => go (count + 1) (value * 10 + v) r'
          | [] => none
        else some (count, value, c :: r)

/-- Splits a sign off. -/
def readSign : List Char → Bool × List Char
  | '-' :: r => (true, r)
  | '+' :: r => (false, r)
  | r => (false, r)

/-- Reads a whole number: blanks around it, a sign and underscores between digits are allowed. -/
def readInt (s : String) : Option Int :=
  let (negative, cs) := readSign (Text.stripChars s.toList)
  match readDigits cs with
  | some (_, v, []) => some (if negative then -(v : Int) else v)
  | _ => none

/-- The exponent at the end of a number, nothing when the text ends. -/
def readExponent : List Char → Option Int
  | [] => some 0
  | c :: r =>
    if c == 'e' || c == 'E' then
      let (negative, cs) := readSign r
      match readDigits cs with
      | some (_, v, []) => some (if negative then -(v : Int) else v)
      | _ => none
    else none

/-- The value `m · 10 ^ k` of an unsigned number. -/
def readScientific (cs : List Char) : Option (Nat × Int) :=
  match cs with
  | '.' :: r =>
    (readDigits r).bind fun (n, v, r) => (readExponent r).map fun k => (v, k - n)
  | _ =>
    (readDigits cs).bind fun (_, v, r) =>
      match r with
      | '.' :: r' =>
        match readDigits r' with
        | some (n, w, r'') => (readExponent r'').map fun k => (v * Nat.pow 10 n + w, k - n)
        | none =>
          if r'.head?.any (· == '_') then none else (readExponent r').map fun k => (v, k)
      | _ => (readExponent r).map fun k => (v, k)

/-- Reads a double: blanks around it, a sign, and the words for infinity and for the value that
is no number, in any case. -/
def readFloat (s : String) : Option Float :=
  let (negative, cs) := readSign (Text.stripChars s.toList)
  let word := (String.ofList cs).toLower
  if word == "inf" || word == "infinity" then
    some (if negative then -1.0 / 0.0 else 1.0 / 0.0)
  else if word == "nan" then some (0.0 / 0.0)
  else (readScientific cs).map fun (m, k) => toFloat negative m k

end Decimal

end DirectionField
