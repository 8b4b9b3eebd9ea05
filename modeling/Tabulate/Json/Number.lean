import Tabulate.Double
import Tabulate.Json

/-!
# Number literals of JSON

A literal is an optional minus sign, a whole part without leading zeros, and optionally a fraction
and an exponent.  Some literals follow this grammar and are still too great to be read.  For this
test only as many digits count as fit in 64 bits.
-/

namespace Tabulate
namespace Json
namespace Number

/-- The parts of a literal: the digits before and behind the point, and the exponent. -/
structure Parts where
  whole : List Char
  fraction : List Char
  exponent : Int

/-- Whether some digits may stand before the point: at least one, and no leading zero. -/
def isWhole : List Char → Bool
  | [] => false
  | '0' :: rest => rest.isEmpty
  | digits => digits.all Char.isDigit

/-- The value of some digits, if there is at least one. -/
def digits? (characters : List Char) : Option Nat :=
  if !characters.isEmpty && characters.all Char.isDigit then some (Text.ofDigits characters)
  else none

/-- The exponent that a text writes, which is zero if the text is empty. -/
def exponent? : List Char → Option Int
  | [] => some 0
  | mark :: rest =>
    if mark = 'e' ∨ mark = 'E' then
      match rest with
      | '+' :: digits => (digits? digits).map fun value => (value : Int)
      | '-' :: digits => (digits? digits).map fun value => -(value : Int)
      | digits => (digits? digits).map fun value => (value : Int)
    else
      none

/-- The digits of the fraction and the exponent that can follow the whole part of a number. -/
def tail? : List Char → Option (List Char × Int)
  | '.' :: rest =>
    let fraction := rest.takeWhile Char.isDigit
    if fraction.isEmpty then none
    else (exponent? (rest.dropWhile Char.isDigit)).map fun exponent => (fraction, exponent)
  | rest => (exponent? rest).map fun exponent => ([], exponent)

/-- A literal without its minus sign. -/
def unsigned : List Char → List Char
  | '-' :: rest => rest
  | rest => rest

/-- The parts of a literal, if it follows the grammar. -/
def parts? (characters : List Char) : Option Parts := do
  let whole := (unsigned characters).takeWhile Char.isDigit
  let (fraction, exponent) ← tail? ((unsigned characters).dropWhile Char.isDigit)
  if isWhole whole then some { whole, fraction, exponent } else none

/-- The number that a literal writes, if it follows the grammar. -/
def ofLiteral? (characters : List Char) : Option Number :=
  (parts? characters).map fun parts =>
    if characters.all Char.isDigit then .natural (Text.ofDigits parts.whole)
    else .literal characters

/-- The number of distinct values that count. -/
def significandBound : Nat := Nat.pow 2 64

/-- Append digits to a number as long as it stays below the bound.  The outcome is the number and
how many digits are left over. -/
def append (value : Nat) : List Char → Nat × Nat
  | [] => (value, 0)
  | digit :: digits =>
    let longer := value * 10 + Text.ofDigits [digit]
    if longer < significandBound then append longer digits else (value, digits.length + 1)

/-- Whether a number is too great to be read.  Of the whole part, the digits that are left over
count as places; of the fraction, they do not count at all. -/
def Parts.isTooGreat (parts : Parts) : Bool :=
  let (wholeDigits, places) := append 0 parts.whole
  let (significand, ignored) := append wholeDigits parts.fraction
  Double.productOverflows significand
    (parts.exponent + places - (parts.fraction.length - ignored : Nat))

/-- Whether a number is not too great to be read. -/
def isReadable : Number → Bool
  | .natural value => !Parts.isTooGreat ⟨Text.digits value, [], 0⟩
  | .literal characters => (parts? characters).any fun parts => !parts.isTooGreat

/-- The characters that write a number. -/
def print : Number → List Char
  | .natural value => Text.digits value
  | .literal characters => characters

end Number
end Json
end Tabulate
