import Tabulate.Derivation.TimeAttribute

/-!
# Fields by name

A reference names a part, wherever it stands.  Parts can be renamed, reordered and left out.  A
row-time attribute may replace a part with a time type or be added, and a proc-time attribute must
be added.
-/

namespace Tabulate

namespace Shape

/-- The place and the type of the first part of a name. -/
def find? (shape : Shape) (name : String) : Option (Nat × ColumnType) := do
  let place ← shape.placeOf? name
  let type ← shape.typeAt? place
  some (place, type)

/-- The part called `part`, as a field called `name`. -/
def partField (shape : Shape) (part name : String) : Except Fault Field :=
  match shape.find? part with
  | some (place, type) => .ok { name, origin := .physical place, type }
  | none => .error (.unknownPart part shape)

/-- The row-time attribute that refers to `inner`, under a new name if there is one. -/
def rowtimeField (precision : UInt8) (shape : Shape) (inner : Expression) (name? : Option String) :
    Except Fault Field := do
  let reference ← inner.expectReference
  match shape.find? reference, name? with
  | some (_, type), _ => type.checkRowtime
  | none, some name => throw (.renamedNewRowtime name)
  | none, none => pure ()
  return .ofRowtime precision (name?.getD reference)

/-- The proc-time attribute that refers to `inner`, under a new name if there is one. -/
def proctimeField (precision : UInt8) (shape : Shape) (inner : Expression)
    (name? : Option String) : Except Fault Field := do
  let reference ← inner.expectReference
  if (shape.placeOf? reference).isSome then
    throw (.proctimeReplaces reference)
  return .ofProctime precision (name?.getD reference)

end Shape

/-- The field that an expression asks for by name. -/
def Expression.fieldByName (precision : UInt8) (shape : Shape) : Expression → Except Fault Field
  | reference name => shape.partField name name
  | renamed (reference part) name => shape.partField part name
  | renamed (rowtime inner) name => shape.rowtimeField precision inner (some name)
  | renamed (proctime inner) name => shape.proctimeField precision inner (some name)
  | renamed _ _ => .error .fieldExpected
  | rowtime inner => shape.rowtimeField precision inner none
  | proctime inner => shape.proctimeField precision inner none
  | unsupported _ => .error .fieldExpected

/-- The fields that some expressions ask for by name. -/
def Shape.fieldsByName (precision : UInt8) (shape : Shape) (expressions : List Expression) :
    Except Fault (List Field) :=
  expressions.mapM (Expression.fieldByName precision shape)

end Tabulate
