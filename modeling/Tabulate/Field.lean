import Tabulate.Column

/-!
# Fields

A field is one output of a derivation: a name, where its values come from, and a type.  A time
attribute has no place in the input; its origin and the role of its type both mark it.
-/

namespace Tabulate

/-- Where the values of a field come from. -/
inductive Origin where
  /-- The part of the input at a place, counted from zero. -/
  | physical (place : Nat)
  /-- The row-time attribute. -/
  | rowtime
  /-- The proc-time attribute. -/
  | proctime
  deriving DecidableEq

def Origin.display : Origin → String
  | physical place => toString place
  | rowtime => "ROWTIME_MARKER"
  | proctime => "PROCTIME_MARKER"

/-- A field of a derived table. -/
structure Field where
  name : String
  origin : Origin
  type : ColumnType
  deriving DecidableEq

namespace Field

def display (field : Field) : String :=
  field.name ++ " [" ++ field.origin.display ++ "]: " ++ field.type.display

/-- Whether a field is a row-time attribute, by its origin and by its type. -/
def isRowtime (field : Field) : Bool :=
  field.origin = .rowtime && field.type.isRowtime

/-- Whether a field is a proc-time attribute, by its origin and by its type. -/
def isProctime (field : Field) : Bool :=
  field.origin = .proctime && field.type.isProctime

/-- The column that a field becomes. -/
def column (field : Field) : Column where
  name := field.name
  type := field.type

/-- The row-time attribute of a name and a precision. -/
def ofRowtime (precision : UInt8) (name : String) : Field where
  name := name
  origin := .rowtime
  type := .timestamp precision .rowtime

/-- The proc-time attribute of a name and a precision. -/
def ofProctime (precision : UInt8) (name : String) : Field where
  name := name
  origin := .proctime
  type := .timestamp precision .proctime

end Field
end Tabulate
