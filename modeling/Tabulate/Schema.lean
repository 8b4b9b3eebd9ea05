import Tabulate.Fault
import Tabulate.Field.Json
import Tabulate.Table

/-!
# Schemas

A schema is a list of fields with a statement whether one of them is the row-time attribute.  The
two constructors accept fields with distinct names, at most one row-time attribute, at most one
proc-time attribute, and a true statement.
-/

namespace Tabulate

/-- The fields of a derived table. -/
structure Schema where
  fields : List Field
  /-- Whether one of the fields is the row-time attribute. -/
  hasRowtime : Bool
  deriving DecidableEq

/-- Refuse names that are not distinct. -/
def Names.checkDistinct (names : List String) : Except Fault Unit :=
  if repeated names = [] then .ok () else .error (.repeatedNames names)

namespace Schema

def names (schema : Schema) : List String :=
  schema.fields.map Field.name

def origins (schema : Schema) : List Origin :=
  schema.fields.map Field.origin

def types (schema : Schema) : List ColumnType :=
  schema.fields.map Field.type

def size (schema : Schema) : Nat :=
  schema.fields.length

/-- The table that the fields describe. -/
def table (schema : Schema) : Table where
  columns := schema.fields.map Field.column

/-- The schema of some fields, if the statement about the row-time attribute is true of them. -/
def ofFields (fields : List Field) (hasRowtime : Bool) : Except Fault Schema := do
  Names.checkDistinct (fields.map Field.name)
  let rowtimes := fields.countP Field.isRowtime
  if rowtimes > 1 then
    throw (.rowtimeCount rowtimes)
  if hasRowtime ≠ decide (rowtimes = 1) then
    throw (.rowtimeFlag hasRowtime rowtimes)
  let proctimes := fields.countP Field.isProctime
  if proctimes > 1 then
    throw (.proctimeCount proctimes)
  return { fields, hasRowtime }

/-- The fields whose names, origins and types stand in three lists. -/
def zipFields : List String → List Origin → List ColumnType → List Field
  | name :: names, origin :: origins, type :: types =>
    { name, origin, type } :: zipFields names origins types
  | _, _, _ => []

/-- The schema of the fields that three lists of equal length describe. -/
def ofParts (names : List String) (origins : List Origin) (types : List ColumnType)
    (hasRowtime : Bool) : Except Fault Schema :=
  if names.length ≠ origins.length ∨ origins.length ≠ types.length then
    .error (.lengthMismatch names origins types)
  else
    ofFields (zipFields names origins types) hasRowtime

def toJson (schema : Schema) : Json :=
  .object
    [("fields", .array (schema.fields.map Field.toJson)),
      ("rowtime_defined", .boolean schema.hasRowtime)]

theorem zipFields_map (fields : List Field) :
    zipFields (fields.map Field.name) (fields.map Field.origin) (fields.map Field.type) =
      fields := by
  induction fields with
  | nil => rfl
  | cons field fields ih => simp [zipFields, ih]

@[simp]
theorem names_table (schema : Schema) : schema.table.names = schema.names := by
  simp [table, Table.names, names, Field.column, Function.comp_def]

end Schema
end Tabulate
