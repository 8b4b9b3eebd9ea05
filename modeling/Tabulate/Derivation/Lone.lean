import Tabulate.Derivation.TimeAttribute

/-!
# Fields around a lone value

The value of an atomic shape has no name, so any one reference stands for it.  Time attributes can
be added before and behind it.
-/

namespace Tabulate

/-- The time attribute that an expression asks for beside a lone value. -/
def Expression.timeAttribute (precision : UInt8) : Expression → Except Fault Field
  | rowtime inner => do
    return .ofRowtime precision (← inner.expectReference)
  | proctime inner => do
    return .ofProctime precision (← inner.expectReference)
  | renamed (rowtime inner) name => do
    let _ ← inner.expectReference
    return .ofRowtime precision name
  | renamed (proctime inner) name => do
    let _ ← inner.expectReference
    return .ofProctime precision name
  | _ => .error .referenceExpected

/-- The fields that the expressions from `place` on ask for.  The value may be referred to once, and
`referred` tells whether it has been. -/
def ColumnType.fieldsFrom (precision : UInt8) (type : ColumnType) :
    Bool → Nat → List Expression → Except Fault (List Field)
  | _, _, [] => .ok []
  | referred, place, .reference name :: expressions => do
    if referred then
      throw .secondReference
    let fields ← fieldsFrom precision type true (place + 1) expressions
    return { name, origin := .physical place, type } :: fields
  | referred, place, expression :: expressions => do
    let field ← expression.timeAttribute precision
    let fields ← fieldsFrom precision type referred (place + 1) expressions
    return field :: fields

/-- The fields that some expressions ask for around a value of the given type. -/
def ColumnType.fieldsAround (precision : UInt8) (type : ColumnType)
    (expressions : List Expression) : Except Fault (List Field) :=
  type.fieldsFrom precision false 0 expressions

end Tabulate
