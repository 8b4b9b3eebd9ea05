import Tabulate.Text.Ignorable
import Tabulate.Text.Mark
import Tabulate.Text.Unassigned

/-!
# Quoted texts in diagnostics

A diagnostic that lists raw texts quotes them, so that a reader can tell where each begins and ends.
Quotes, backslashes and the common control characters have short escapes.  Any other character that
cannot be seen on its own is shown by its code point.
-/

namespace Tabulate
namespace Text

/-- The control, format, separator and private-use characters, the plain space excepted. -/
def invisibleRanges : List (Nat × Nat) :=
  [(0x0000, 0x001F), (0x007F, 0x00A0), (0x00AD, 0x00AD), (0x0600, 0x0605), (0x061C, 0x061C),
    (0x06DD, 0x06DD), (0x070F, 0x070F), (0x0890, 0x0891), (0x08E2, 0x08E2), (0x1680, 0x1680),
    (0x180E, 0x180E), (0x2000, 0x200F), (0x2028, 0x202F), (0x205F, 0x2064), (0x2066, 0x206F),
    (0x3000, 0x3000), (0xE000, 0xF8FF), (0xFEFF, 0xFEFF), (0xFFF9, 0xFFFB), (0x110BD, 0x110BD),
    (0x110CD, 0x110CD), (0x13430, 0x1343F), (0x1BCA0, 0x1BCA3), (0x1D173, 0x1D17A),
    (0xE0001, 0xE0001), (0xE0020, 0xE007F), (0xF0000, 0xFFFFD), (0x100000, 0x10FFFD)]

/-- Whether a character can be seen on its own. -/
def isVisible (character : Char) : Bool :=
  !covers invisibleRanges character && !isUnassigned character && !isIgnorable character &&
    !isMark character

/-- The code point of a character, as hexadecimal digits in braces. -/
def codePoint (character : Char) : List Char :=
  ['\\', 'u', '\x7b'] ++ Nat.toDigits 16 character.toNat ++ ['\x7d']

/-- The form of one character between quotes. -/
def showChar : Char → List Char
  | '"' => ['\\', '"']
  | '\\' => ['\\', '\\']
  | '\n' => ['\\', 'n']
  | '\r' => ['\\', 'r']
  | '\t' => ['\\', 't']
  | '\x00' => ['\\', '0']
  | character => if isVisible character then [character] else codePoint character

/-- The quoted form of a text. -/
def quoted (text : String) : String :=
  String.ofList ('"' :: text.toList.flatMap showChar ++ ['"'])

/-- The form of a list of texts, each of them quoted. -/
def quotedList (texts : List String) : String :=
  "[" ++ ", ".intercalate (texts.map quoted) ++ "]"

end Text
end Tabulate
