import Tabulate.Json.Number

/-!
# Printing JSON

Values are printed without blanks.  In texts, quotes, backslashes and control characters are
escaped.  A printer may choose further characters of the basic plane to be escaped; `toText` chooses
those that some readers take for the end of a line, and `toCompactText` none.
-/

namespace Tabulate
namespace Json

/-- The lower-case hexadecimal digits of a code unit, four of them. -/
def unitDigits (value : Nat) : List Char :=
  [value / 0x1000 % 16, value / 0x100 % 16, value / 0x10 % 16, value % 16].map Nat.digitChar

/-- Whether a character is a line separator outside the control characters of ASCII. -/
def isLineSeparator (character : Char) : Bool :=
  character.toNat = 0x85 || character.toNat = 0x2028 || character.toNat = 0x2029

/-- The characters that write one character of a text. -/
def escape (chosen : Char → Bool) (character : Char) : List Char :=
  match character with
  | '"' => ['\\', '"']
  | '\\' => ['\\', '\\']
  | '\x08' => ['\\', 'b']
  | '\x0c' => ['\\', 'f']
  | '\n' => ['\\', 'n']
  | '\r' => ['\\', 'r']
  | '\t' => ['\\', 't']
  | _ =>
    if character.toNat < 0x20 || chosen character then
      '\\' :: 'u' :: unitDigits character.toNat
    else
      [character]

/-- The quoted form of a text. -/
def quote (chosen : Char → Bool) (content : String) : List Char :=
  '"' :: content.toList.flatMap (escape chosen) ++ ['"']

mutual

/-- The characters that write a value. -/
def print (chosen : Char → Bool) : Json → List Char
  | .null => ['n', 'u', 'l', 'l']
  | .boolean true => ['t', 'r', 'u', 'e']
  | .boolean false => ['f', 'a', 'l', 's', 'e']
  | .number written => written.print
  | .text content => quote chosen content
  | .array elements => '[' :: printElements chosen elements
  | .object members => '\x7b' :: printMembers chosen members

/-- The elements of an array up to the closing bracket. -/
def printElements (chosen : Char → Bool) : List Json → List Char
  | [] => [']']
  | [element] => print chosen element ++ [']']
  | element :: elements => print chosen element ++ ',' :: printElements chosen elements

/-- The members of an object up to the closing brace. -/
def printMembers (chosen : Char → Bool) : List (String × Json) → List Char
  | [] => ['\x7d']
  | [(name, value)] => quote chosen name ++ ':' :: print chosen value ++ ['\x7d']
  | (name, value) :: members =>
    quote chosen name ++ ':' :: print chosen value ++ ',' :: printMembers chosen members

end

/-- The text that writes a value for any reader. -/
def toText (json : Json) : String :=
  String.ofList (json.print isLineSeparator)

/-- The shortest text that writes a value, with no more escapes than it takes. -/
def toCompactText (json : Json) : String :=
  String.ofList (json.print fun _ => false)

end Json
end Tabulate
