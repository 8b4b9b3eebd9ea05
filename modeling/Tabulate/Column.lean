import Tabulate.ColumnType.Json

/-!
# Columns

A column is a name with a type.  The parts of a composite shape and the columns of a table are both
of this kind.
-/

namespace Tabulate

/-- A named value of a logical type. -/
structure Column where
  name : String
  type : ColumnType
  deriving DecidableEq

namespace Column

def display (column : Column) : String :=
  column.name ++ ": " ++ column.type.display

def toJson (column : Column) : Json :=
  .object [("name", .text column.name), ("data_type", column.type.toJson)]

/-- The column that a JSON value writes, with `readType` for its type. -/
def ofFields? (readType : Json → Option ColumnType) (json : Json) : Option Column := do
  let [some name, some type] ← (← Json.Record.ofJson? json).fields? ["name", "data_type"] | none
  some { name := ← name.toText?, type := ← readType type }

def ofJson? (json : Json) : Option Column :=
  ofFields? ColumnType.ofJson? json

/-- The members that are read of a column that stands in a record without a tag. -/
def outline : Json.Outline :=
  .plain ["name", "data_type"]

/-- The column that a JSON value writes inside a tagged record. -/
def ofInnerJson? (json : Json) : Option Column :=
  ofFields? ColumnType.ofInnerJson? json

end Column
end Tabulate
