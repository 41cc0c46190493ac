import Summand.Text.Ranges

/-!
# Blank characters

A character is blank when it has the Unicode property `White_Space`.  Blanks that do not end a line
separate tokens; all blanks are dropped from the two ends of a trimmed text.
-/

namespace Summand.Text

/-- The characters with the property `White_Space`. -/
def blankRanges : Ranges :=
  [(0x9, 0xD), (0x20, 0x20), (0x85, 0x85), (0xA0, 0xA0), (0x1680, 0x1680), (0x2000, 0x200A),
   (0x2028, 0x2029), (0x202F, 0x202F), (0x205F, 0x205F), (0x3000, 0x3000)]

/-- A blank of any kind, line ends included. -/
def isBlank (c : Char) : Bool :=
  blankRanges.covers c

/-- A line feed or a carriage return: the characters that make up a line break. -/
def isLineEnd (c : Char) : Bool :=
  c == '\n' || c == '\r'

/-- A blank that stays on its line. -/
def isInlineBlank (c : Char) : Bool :=
  isBlank c && !isLineEnd c

/-- The characters without the blanks at either end. -/
def trimChars (cs : List Char) : List Char :=
  ((cs.dropWhile isBlank).reverse.dropWhile isBlank).reverse

/-- The text without the blanks at either end. -/
def trim (text : String) : String :=
  String.ofList (trimChars text.toList)

/-- Line ends are blanks. -/
theorem isBlank_of_isLineEnd {c : Char} (h : isLineEnd c = true) : isBlank c = true := by
  simp only [isLineEnd, Bool.or_eq_true, beq_iff_eq] at h
  rcases h with h | h <;> subst h <;> decide

@[simp] theorem toList_trim (text : String) : (trim text).toList = trimChars text.toList := by
  simp [trim]

end Summand.Text
