import Tabulate.Double
import Tabulate.Toml.Item

/-!
# Bare values of TOML

A value without quotes or brackets is a boolean, an integer, a float, or a moment in time.
Underscores may stand between two digits.  Integers must fit in 64 bits with a sign, and a float
must not be too great for a double.
-/

namespace Tabulate
namespace Toml

/-- The digits of a run in which single underscores may stand between digits. -/
def digitRun? (isDigit : Char → Bool) : List Char → Option (List Char)
  | [] => none
  | [digit] => if isDigit digit then some [digit] else none
  | digit :: '_' :: rest =>
    if isDigit digit then (digitRun? isDigit rest).map (digit :: ·) else none
  | digit :: rest =>
    if isDigit digit then (digitRun? isDigit rest).map (digit :: ·) else none

/-- The value of some digits in a base of at most sixteen. -/
def inBase (base : Nat) (digits : List Char) : Nat :=
  digits.foldl (fun value digit => value * base + (Text.hexDigit? digit).getD 0) 0

/-- The value of a run of digits in a base of at most sixteen. -/
def natural? (base : Nat) (characters : List Char) : Option Nat :=
  (digitRun? (fun digit => (Text.hexDigit? digit).any (· < base)) characters).map (inBase base)

/-- Whether a run of decimal digits starts with a zero that it does not need. -/
def hasIdleZero : List Char → Bool
  | '0' :: _ :: _ => true
  | _ => false

/-- The sign at the start of a literal, as whether it is a minus, and what is behind it. -/
def splitSign : List Char → Bool × List Char
  | '-' :: rest => (true, rest)
  | '+' :: rest => (false, rest)
  | characters => (false, characters)

/-- An integer that fits in 64 bits with a sign. -/
def bounded? (value : Int) : Option Int :=
  if -(Nat.pow 2 63 : Int) ≤ value ∧ value < Nat.pow 2 63 then some value else none

/-- The value of an integer literal.  Only decimal ones may have a sign. -/
def integer? : List Char → Option Int
  | '0' :: 'x' :: digits => do bounded? (← natural? 16 digits)
  | '0' :: 'o' :: digits => do bounded? (← natural? 8 digits)
  | '0' :: 'b' :: digits => do bounded? (← natural? 2 digits)
  | characters => do
    let (negative, digits) := splitSign characters
    if hasIdleZero digits then
      none
    else
      let magnitude ← natural? 10 digits
      bounded? (if negative then -magnitude else magnitude)

/-- The value of an exponent, which may have a sign and idle zeros. -/
def exponent? (characters : List Char) : Option Int := do
  let (negative, digits) := splitSign characters
  let magnitude ← natural? 10 digits
  some (if negative then -magnitude else magnitude)

/-- Whether a character marks an exponent. -/
def isExponentMark (character : Char) : Bool :=
  character = 'e' || character = 'E'

/-- Whether a text is a float literal other than an infinity or a literal for no number. -/
def isDecimalFloat (characters : List Char) : Bool :=
  let (negative, unsigned) := splitSign characters
  let significand := unsigned.takeWhile (!isExponentMark ·)
  let whole := significand.takeWhile (· ≠ '.')
  let accepted : Option Bool := do
    let wholeDigits ← digitRun? Char.isDigit whole
    let fraction ←
      match significand.dropWhile (· ≠ '.') with
      | [] => some []
      | _ :: digits => digitRun? Char.isDigit digits
    let exponent ←
      match unsigned.dropWhile (!isExponentMark ·) with
      | [] => some 0
      | _ :: rest => exponent? rest
    let mantissa := Text.ofDigits (wholeDigits ++ fraction)
    some (unsigned ≠ whole && !hasIdleZero whole &&
      (negative || !Double.overflows mantissa (exponent - fraction.length)))
  accepted.getD false

/-- Whether a text is a float literal. -/
def isFloat (characters : List Char) : Bool :=
  let unsigned := (splitSign characters).2
  unsigned = ['i', 'n', 'f'] || unsigned = ['n', 'a', 'n'] || isDecimalFloat characters

/-- The value of the two digits at the start, at least `least` and at most `greatest`, and the
rest. -/
def twoDigits? (least greatest : Nat) : List Char → Option (Nat × List Char)
  | tens :: ones :: rest =>
    let value := Text.ofDigits [tens, ones]
    if tens.isDigit && ones.isDigit && least ≤ value && value ≤ greatest then some (value, rest)
    else none
  | _ => none

/-- What is left behind an expected character. -/
def after? (expected : Char) : List Char → Option (List Char)
  | character :: rest => if character = expected then some rest else none
  | [] => none

/-- Whether a year has a day more. -/
def isLeapYear (year : Nat) : Bool :=
  year % 4 = 0 && (year % 100 ≠ 0 || year % 400 = 0)

/-- The number of days of a month. -/
def daysInMonth (year month : Nat) : Nat :=
  if month = 2 then (if isLeapYear year then 29 else 28)
  else if month = 4 ∨ month = 6 ∨ month = 9 ∨ month = 11 then 30
  else 31

/-- What is left behind a date. -/
def afterDate? (characters : List Char) : Option (List Char) := do
  let (century, rest) ← twoDigits? 0 99 characters
  let (remainder, rest) ← twoDigits? 0 99 rest
  let (month, rest) ← twoDigits? 1 12 (← after? '-' rest)
  let (_, rest) ← twoDigits? 1 (daysInMonth (century * 100 + remainder) month) (← after? '-' rest)
  some rest

/-- What is left behind a time of day, which may count a leap second and a fraction. -/
def afterTime? (characters : List Char) : Option (List Char) := do
  let (_, rest) ← twoDigits? 0 23 characters
  let (_, rest) ← twoDigits? 0 59 (← after? ':' rest)
  let (_, rest) ← twoDigits? 0 60 (← after? ':' rest)
  match rest with
  | '.' :: digit :: rest => if digit.isDigit then some (rest.dropWhile Char.isDigit) else none
  | rest => some rest

/-- Whether a text is empty or the offset of a time zone. -/
def isOffset : List Char → Bool
  | [] => true
  | ['Z'] => true
  | ['z'] => true
  | sign :: rest =>
    let remainder := do
      let (_, rest) ← twoDigits? 0 23 rest
      let (_, rest) ← twoDigits? 0 59 (← after? ':' rest)
      some rest
    (sign = '+' || sign = '-') && remainder = some []

/-- Whether a text is a date. -/
def isDate (characters : List Char) : Bool :=
  afterDate? characters = some []

/-- Whether a text is a date, a time of day, or both with or without an offset. -/
def isMoment (characters : List Char) : Bool :=
  match afterDate? characters with
  | some [] => true
  | some (separator :: rest) =>
    (separator = 'T' || separator = 't' || separator = ' ') && (afterTime? rest).any isOffset
  | none => afterTime? characters = some []

/-- The item that a bare value writes. -/
def Item.ofLiteral? (characters : List Char) : Option Item :=
  if characters = ['t', 'r', 'u', 'e'] then some (.boolean true)
  else if characters = ['f', 'a', 'l', 's', 'e'] then some (.boolean false)
  else if isMoment characters then some (.moment characters)
  else if isFloat characters then some (.float characters)
  else (integer? characters).map .integer

end Toml
end Tabulate
