/-!
# Blank characters

Blank characters are those with the Unicode property `White_Space`.  A text is blank when it holds
nothing else, and `trim` removes them from both of its ends.
-/

namespace Tabulate
namespace Text

/-- Whether the code point of a character lies in one of the given closed ranges. -/
def covers (ranges : List (Nat × Nat)) (character : Char) : Bool :=
  ranges.any fun range => range.1 ≤ character.toNat && character.toNat ≤ range.2

/-- The ranges of the property `White_Space`. -/
def blankRanges : List (Nat × Nat) :=
  [(0x09, 0x0D), (0x20, 0x20), (0x85, 0x85), (0xA0, 0xA0), (0x1680, 0x1680), (0x2000, 0x200A),
    (0x2028, 0x2029), (0x202F, 0x202F), (0x205F, 0x205F), (0x3000, 0x3000)]

/-- Whether a character is white space. -/
def isBlank (character : Char) : Bool :=
  covers blankRanges character

/-- Remove the blank characters at both ends of a text. -/
def trim (characters : List Char) : List Char :=
  ((characters.dropWhile isBlank).reverse.dropWhile isBlank).reverse

/-- Whether a text has no character, or blank ones only. -/
def isBlankText (text : String) : Bool :=
  text.toList.all isBlank

end Text
end Tabulate
