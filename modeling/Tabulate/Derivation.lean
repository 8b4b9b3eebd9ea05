import Tabulate.Derivation.ByName
import Tabulate.Derivation.ByPlace
import Tabulate.Derivation.Check
import Tabulate.Derivation.Lone
import Tabulate.Derivation.Natural
import Tabulate.Settings

/-!
# Derivation of schemas

`Settings.schemaOf` turns a shape into a schema as it is, and `Settings.derive` does so as some
expressions ask.  A derivation yields the whole schema or one fault.

A positional shape is read by place if no plain reference names one of its parts, and by name
otherwise.  The choice is made once for all expressions.
-/

namespace Tabulate

namespace Shape

/-- Whether references name the part at their own place. -/
def readsByPlace (shape : Shape) (expressions : List Expression) : Bool :=
  shape.isPositional &&
    expressions.all fun expression =>
      expression.reference?.all fun name => (shape.placeOf? name).isNone

/-- The fields that some expressions ask for. -/
def resolve (precision : UInt8) (shape : Shape) (expressions : List Expression) :
    Except Fault (List Field) :=
  match shape.layout with
  | .generic => .error .unknownParts
  | .atomic type => type.fieldsAround precision expressions
  | .composite _ _ =>
    if shape.readsByPlace expressions then shape.fieldsByPlace precision expressions
    else shape.fieldsByName precision expressions

end Shape

namespace Settings

/-- The names of the fields of a shape, under valid settings. -/
def fieldNames (settings : Settings) (shape : Shape) (taken : List String) :
    Except Fault (List String) := do
  settings.validate
  shape.fieldNames settings.baseName taken

/-- The places of the fields of a shape, under valid settings. -/
def fieldPlaces (settings : Settings) (shape : Shape) : Except Fault (List Nat) := do
  settings.validate
  shape.fieldPlaces settings.baseName

/-- The schema of a shape as it is. -/
def schemaOf (settings : Settings) (shape : Shape) : Except Fault Schema := do
  settings.validate
  if shape.isGeneric then
    throw .unknownParts
  let names ← shape.fieldNames settings.baseName []
  let places ← shape.fieldPlaces settings.baseName
  let types ← shape.fieldTypes
  Schema.ofParts names (places.map .physical) types false

/-- The schema of a shape as some expressions ask.  Without expressions the shape is taken as it
is. -/
def derive (settings : Settings) (shape : Shape) (expressions : List Expression) :
    Except Fault Schema := do
  settings.validate
  if expressions.isEmpty then
    settings.schemaOf shape
  else
    shape.checkAccessible
    let fields ← shape.resolve settings.precision expressions
    let hasRowtime ← Field.checkAll fields
    Schema.ofFields fields hasRowtime

end Settings
end Tabulate
