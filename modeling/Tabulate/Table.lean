import Tabulate.Column

/-!
# Tables

A table is known here by its columns alone.  The origins of its fields are gone; what remains of a
time attribute is the role of its type.
-/

namespace Tabulate

/-- The columns of a table, in order. -/
structure Table where
  columns : List Column := []
  deriving DecidableEq

namespace Table

def names (table : Table) : List String :=
  table.columns.map Column.name

def width (table : Table) : Nat :=
  table.columns.length

/-- The type of the first column of a name. -/
def typeOf? (table : Table) (name : String) : Option ColumnType :=
  (table.columns.find? (·.name = name)).map Column.type

def push (table : Table) (column : Column) : Table where
  columns := table.columns ++ [column]

def toJson (table : Table) : Json :=
  .object [("columns", .array (table.columns.map Column.toJson))]

def ofJson? (json : Json) : Option Table := do
  let [some columns] ← (← Json.Record.ofJson? json).fields? ["columns"] | none
  some { columns := ← columns.toList? Column.ofJson? }

/-- The members that are read of a table. -/
def outline : Json.Outline :=
  .record [("columns", .list Column.outline)] false

def ofText? (text : String) : Option Table := do
  ofJson? (← Json.read? outline text)

end Table
end Tabulate
