import Tabulate.Fault

/-!
# Time attributes

A time attribute is named by a plain reference, or by a new name around it.
-/

namespace Tabulate

/-- The name in a plain reference; anything else is refused. -/
def Expression.expectReference (expression : Expression) : Except Fault String :=
  match expression.reference? with
  | some name => .ok name
  | none => .error .referenceExpected

/-- Refuse a type in whose place a row-time attribute may not stand. -/
def ColumnType.checkRowtime (type : ColumnType) : Except Fault Unit :=
  if type.canBeRowtime then .ok () else .error (.notRowtimeType type)

end Tabulate
