/-! Blank characters, and text with its blanks trimmed.

The blank characters are the Unicode white-space characters together with the four
information separators U+001C to U+001F, which count as line breaks. Trimming removes every
blank character from both ends of a text and keeps the inside as it is; reading a filter
fragment trims first. Reading a number takes from this class only the blanks beyond ASCII. -/
namespace FlowSelect.Text

/-- The blank characters as inclusive ranges of code points, in increasing order. -/
def blankRanges : List (Nat × Nat) :=
  [(0x09, 0x0D), (0x1C, 0x20), (0x85, 0x85), (0xA0, 0xA0), (0x1680, 0x1680),
   (0x2000, 0x200A), (0x2028, 0x2029), (0x202F, 0x202F), (0x205F, 0x205F), (0x3000, 0x3000)]

/-- Whether a character is blank. -/
def isBlank (c : Char) : Bool :=
  blankRanges.any fun r => r.1 ≤ c.toNat && c.toNat ≤ r.2

/-- A list of characters without its blanks at either end. -/
def trimChars (cs : List Char) : List Char :=
  ((cs.dropWhile isBlank).reverse.dropWhile isBlank).reverse

/-- A text without its blanks at either end. -/
def trim (s : String) : String :=
  String.ofList (trimChars s.toList)

/-- The words of a text: its longest runs of characters that are not blank, in order. -/
def words (s : String) : List String :=
  ((s.toList.splitOnP isBlank).filter (!·.isEmpty)).map String.ofList

end FlowSelect.Text
