/-!
# Blanks

The Unicode blanks that may surround the parts of an equation, and stripping them from both ends
of a text.
-/

namespace DirectionField.Text

/-- Whether the character is a Unicode blank: the white space of ASCII with the four information
separators, the next-line control, and the space separators. -/
def isBlank (c : Char) : Bool :=
  let n := c.toNat
  (decide (0x09 ≤ n ∧ n ≤ 0x0d)) || (decide (0x1c ≤ n ∧ n ≤ 0x20)) || n == 0x85 || n == 0xa0 ||
    n == 0x1680 || (decide (0x2000 ≤ n ∧ n ≤ 0x200a)) || n == 0x2028 || n == 0x2029 ||
    n == 0x202f || n == 0x205f || n == 0x3000

/-- The characters without the blanks in front. -/
def dropBlanks (cs : List Char) : List Char := cs.dropWhile isBlank

/-- The characters without the blanks at either end. -/
def stripChars (cs : List Char) : List Char :=
  (dropBlanks (dropBlanks cs).reverse).reverse

/-- The text without the blanks at either end. -/
def strip (s : String) : String := String.ofList (stripChars s.toList)

/-- Whether the text has no character other than blanks. -/
def isBlankText (s : String) : Bool := s.toList.all isBlank

end DirectionField.Text
