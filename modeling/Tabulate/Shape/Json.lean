import Tabulate.Shape

/-!
# Shapes in JSON

The members of the layout, which is tagged by `kind`, stand in one object with the declaration.  A
shape is therefore always an object, and its layout is read like a record inside a tagged one.
-/

namespace Tabulate

def Visibility.name : Visibility → String
  | global => "public"
  | restricted => "restricted"

def Visibility.ofName? : String → Option Visibility
  | "public" => some global
  | "restricted" => some restricted
  | _ => none

def Visibility.ofJson? (json : Json) : Option Visibility := do
  Visibility.ofName? (← json.toName?)

def Nesting.name : Nesting → String
  | topLevel => "top_level"
  | staticNested => "static_nested"
  | inner => "inner"

def Nesting.ofName? : String → Option Nesting
  | "top_level" => some topLevel
  | "static_nested" => some staticNested
  | "inner" => some inner
  | _ => none

def Nesting.ofJson? (json : Json) : Option Nesting := do
  Nesting.ofName? (← json.toName?)

namespace Declaration

def toJson (declaration : Declaration) : Json :=
  .object
    [("name", declaration.name.elim .null .text),
      ("visibility", .text declaration.visibility.name),
      ("nesting", .text declaration.nesting.name)]

/-- The name that a JSON value writes, or its absence. -/
def nameOfJson? : Json → Option (Option String)
  | .null => some none
  | json => json.toText?.map some

/-- The declaration that a JSON value writes.  Its name may be missing from an object only. -/
def ofJson? : Json → Option Declaration
  | .array [] => none
  | json => do
    let [name, visibility, nesting] ←
      (← Json.Record.ofJson? json).fields? ["name", "visibility", "nesting"] | none
    some
      { name := ← Json.orDefault none nameOfJson? name
        visibility := ← Json.orDefault .global Visibility.ofJson? visibility
        nesting := ← Json.orDefault .topLevel Nesting.ofJson? nesting }

/-- The members that are read of a declaration. -/
def outline : Json.Outline :=
  .plain ["name", "visibility", "nesting"]

def ofText? (text : String) : Option Declaration := do
  ofJson? (← Json.read? outline text)

end Declaration

namespace Layout

/-- The names of all cases, in order. -/
def cases : List String :=
  ["atomic", "composite", "generic_record"]

/-- The members of a layout, its tag first. -/
def members : Layout → List (String × Json)
  | atomic type => [("kind", .text "atomic"), ("data_type", type.toJson)]
  | composite parts positional =>
    [("kind", .text "composite"), ("fields", .array (parts.map Column.toJson)),
      ("positional", .boolean positional)]
  | generic => [("kind", .text "generic_record")]

/-- The layout of the given case whose members stand in a record. -/
def ofRecord? (record : Json.Record Json) : String → Option Layout
  | "atomic" => do
    let [some type] ← record.fields? ["data_type"] | none
    some (atomic (← ColumnType.ofInnerJson? type))
  | "composite" => do
    let [some parts, positional] ← record.fields? ["fields", "positional"] | none
    some (composite (← parts.toList? Column.ofInnerJson?)
      (← Json.orDefault false Json.toBool? positional))
  | "generic_record" => record.empty?.map fun _ => generic
  | _ => none

end Layout

namespace Shape

def toJson (shape : Shape) : Json :=
  .object (("type_class", shape.declaration.toJson) :: shape.layout.members)

def ofJson? : Json → Option Shape
  | .object members => do
    let declaration ← Declaration.ofJson? (← (← Json.Record.member? "type_class" members))
    let (tag, record) ← (Json.Record.named members).tagged? "kind" (Json.toCase? Layout.cases)
    some { declaration, layout := ← Layout.ofRecord? record tag }
  | _ => none

/-- The members that are read of a shape.  All of them may belong to its layout, except for the
declaration. -/
def outline : Json.Outline :=
  .record [("type_class", Declaration.outline)] true

def ofText? (text : String) : Option Shape := do
  ofJson? (← Json.read? outline text)

end Shape
end Tabulate
