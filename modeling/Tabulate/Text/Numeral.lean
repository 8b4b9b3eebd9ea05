/-!
# Decimal numerals

Naturals are written without leading zeros, and read from any digits.  Bytes are read leniently:
leading zeros and one plus sign are allowed, as long as the value stays below 256.
-/

namespace Tabulate
namespace Text

/-- The decimal digits of a natural number. -/
def digits (value : Nat) : List Char :=
  Nat.toDigits 10 value

/-- The number that a list of decimal digits writes. -/
def ofDigits (characters : List Char) : Nat :=
  Nat.ofDigitChars 10 characters 0

theorem ofDigits_digits (value : Nat) : ofDigits (digits value) = value :=
  Nat.ofDigitChars_toDigits (by decide) (by decide)

theorem isDigit_of_mem_digits {value : Nat} {character : Char} (mem : character ∈ digits value) :
    character.isDigit = true :=
  Nat.isDigit_of_mem_toDigits (by decide) (by decide) mem

/-- The value of a hexadecimal digit in either case. -/
def hexDigit? (character : Char) : Option Nat :=
  if character.isDigit then
    some (character.toNat - '0'.toNat)
  else if 'a' ≤ character ∧ character ≤ 'f' then
    some (character.toNat - 'a'.toNat + 10)
  else if 'A' ≤ character ∧ character ≤ 'F' then
    some (character.toNat - 'A'.toNat + 10)
  else
    none

/-- The byte written by some decimal digits, if there is at least one and the value fits. -/
def unsignedByte? (characters : List Char) : Option UInt8 :=
  if characters ≠ [] ∧ characters.all Char.isDigit ∧ ofDigits characters < 256 then
    some (UInt8.ofNat (ofDigits characters))
  else
    none

/-- The byte written by some decimal digits after at most one plus sign. -/
def byte? : List Char → Option UInt8
  | '+' :: rest => unsignedByte? rest
  | characters => unsignedByte? characters

end Text
end Tabulate
