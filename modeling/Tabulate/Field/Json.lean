import Tabulate.Field

/-!
# Fields in JSON

The origin of a field is an object with the place, or the name of a marker.
-/

namespace Tabulate

namespace Origin

/-- The number of places that can be written. -/
def placeBound : Nat := Nat.pow 2 64

def toJson : Origin → Json
  | physical place => .object [("physical", .natural place)]
  | rowtime => .text "rowtime_marker"
  | proctime => .text "proctime_marker"

def ofJson? : Json → Option Origin
  | .object [("physical", place)] => (place.toNatBelow? placeBound).map physical
  | json =>
    match json.toName? with
    | some "rowtime_marker" => some rowtime
    | some "proctime_marker" => some proctime
    | _ => none

def ofText? (text : String) : Option Origin := do
  ofJson? (← Json.read? .whole text)

end Origin

namespace Field

def toJson (field : Field) : Json :=
  .object
    [("name", .text field.name), ("index", field.origin.toJson), ("data_type", field.type.toJson)]

def ofJson? (json : Json) : Option Field := do
  let [some name, some origin, some type] ←
    (← Json.Record.ofJson? json).fields? ["name", "index", "data_type"] | none
  some
    { name := ← name.toText?, origin := ← Origin.ofJson? origin, type := ← ColumnType.ofJson? type }

/-- The members that are read of a field. -/
def outline : Json.Outline :=
  .plain ["name", "index", "data_type"]

def ofText? (text : String) : Option Field := do
  ofJson? (← Json.read? outline text)

end Field
end Tabulate
