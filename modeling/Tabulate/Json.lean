/-!
# JSON values

A value keeps what its text says: an object is the list of its members in their order, and a name
may occur in it more than once.  Of numbers, only plain naturals have a value here; a number with a
sign, a fraction or an exponent is kept as its literal.
-/

namespace Tabulate

/-- A number as it is written in JSON text. -/
inductive Json.Number where
  /-- Decimal digits and nothing else. -/
  | natural (value : Nat)
  /-- Any other literal: negative, with a fraction, or with an exponent. -/
  | literal (characters : List Char)
  deriving DecidableEq

/-- A JSON value. -/
inductive Json where
  | null
  | boolean (truth : Bool)
  | number (number : Json.Number)
  | text (content : String)
  | array (elements : List Json)
  | object (members : List (String × Json))

namespace Json

/-- The value that holds a natural number. -/
def natural (value : Nat) : Json :=
  .number (.natural value)

/-- The value of an array of texts. -/
def texts (contents : List String) : Json :=
  .array (contents.map .text)

/-- The content of a text. -/
def toText? : Json → Option String
  | .text content => some content
  | _ => none

/-- The content of a text, or the name of the only member of an object if that member is null.
This is how a case without data is written. -/
def toName? : Json → Option String
  | .text content => some content
  | .object [(name, .null)] => some name
  | _ => none

/-- The name of a case without data that stands inside a tagged record, where an empty object may
take the place of null. -/
def toInnerName? : Json → Option String
  | .object [(name, .object [])] => some name
  | json => json.toName?

/-- The truth value of a boolean. -/
def toBool? : Json → Option Bool
  | .boolean truth => some truth
  | _ => none

/-- The value of a plain natural number. -/
def toNat? : Json → Option Nat
  | .number (.natural value) => some value
  | _ => none

/-- The value of a plain natural number below `bound`. -/
def toNatBelow? (bound : Nat) (json : Json) : Option Nat :=
  json.toNat?.filter (· < bound)

/-- The value of a plain natural number below 256. -/
def toByte? (json : Json) : Option UInt8 :=
  (json.toNatBelow? 256).map UInt8.ofNat

/-- The elements of an array, each read by `read`. -/
def toList? {α : Type} (read : Json → Option α) : Json → Option (List α)
  | .array elements => elements.mapM read
  | _ => none

/-- The value of a byte. -/
def byte (value : UInt8) : Json :=
  natural value.toNat

@[simp]
theorem toText?_text (content : String) : toText? (text content) = some content := rfl

@[simp]
theorem toName?_text (content : String) : toName? (text content) = some content := rfl

@[simp]
theorem toInnerName?_text (content : String) : toInnerName? (text content) = some content := rfl

@[simp]
theorem toBool?_boolean (truth : Bool) : toBool? (boolean truth) = some truth := rfl

@[simp]
theorem toNatBelow?_natural {bound value : Nat} (below : value < bound) :
    toNatBelow? bound (natural value) = some value := by
  simp [toNatBelow?, toNat?, natural, Option.filter, below]

@[simp]
theorem toByte?_byte (value : UInt8) : toByte? (byte value) = some value := by
  simp [toByte?, byte, toNatBelow?_natural value.toNat_lt]

end Json
end Tabulate
