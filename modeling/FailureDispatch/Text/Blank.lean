/-!
# Blank characters

The characters with the Unicode property `White_Space`, as a table of closed
ranges.  Characters that merely look empty, such as the zero width space
U+200B or the byte order mark U+FEFF, do not have the property, and neither
do the separators U+001C to U+001F.
-/

namespace FailureDispatch
namespace Text

/-- The closed ranges of code points with the property `White_Space`. -/
def blankRanges : List (Nat × Nat) :=
  [(0x09, 0x0D), (0x20, 0x20), (0x85, 0x85), (0xA0, 0xA0), (0x1680, 0x1680), (0x2000, 0x200A),
   (0x2028, 0x2029), (0x202F, 0x202F), (0x205F, 0x205F), (0x3000, 0x3000)]

def isBlank (c : Char) : Bool :=
  blankRanges.any fun range => decide (range.1 ≤ c.toNat) && decide (c.toNat ≤ range.2)

/-- Core's ASCII notion of white space is part of the property. -/
theorem isBlank_of_isWhitespace {c : Char} (white : c.isWhitespace = true) : isBlank c = true := by
  simp only [Char.isWhitespace, Bool.or_eq_true, decide_eq_true_eq] at white
  rcases white with ((rfl | rfl) | rfl) | rfl <;> decide

/-- A text counts as empty when removing blank characters from its ends
leaves nothing. -/
def isAllBlank (text : String) : Bool := text.toList.all isBlank

/-- The text without the blank characters at its ends. -/
def strip (text : List Char) : List Char :=
  ((text.dropWhile isBlank).reverse.dropWhile isBlank).reverse

end Text
end FailureDispatch
