import Tabulate.Fault

/-!
# Fields without expressions

What a shape offers on its own: the names, types and places of its fields.  A shape without named
parts offers one field, whose name is made up.
-/

namespace Tabulate
namespace Shape

/-- Refuse a shape whose type cannot be named from everywhere. -/
def checkAccessible (shape : Shape) : Except Fault Unit :=
  if shape.declaration.isAccessible then .ok () else .error (.inaccessible shape)

/-- The names of the fields.  A made-up name starts with `base` and avoids the names `taken`. -/
def fieldNames (shape : Shape) (base : String) (taken : List String) :
    Except Fault (List String) := do
  shape.checkAccessible
  let names :=
    match shape.layout with
    | .composite parts _ => parts.map Column.name
    | _ => [Names.fresh base taken]
  if "*" ∈ names then
    throw .starPart
  return names

/-- The types of the fields. -/
def fieldTypes (shape : Shape) : Except Fault (List ColumnType) := do
  shape.checkAccessible
  return match shape.layout with
    | .atomic type => [type]
    | .composite parts _ => parts.map Column.type
    | .generic => [.raw shape.declaration.displayName]

/-- The places of the fields, counted from zero. -/
def fieldPlaces (shape : Shape) (base : String) : Except Fault (List Nat) := do
  return List.range (← shape.fieldNames base []).length

end Shape
end Tabulate
