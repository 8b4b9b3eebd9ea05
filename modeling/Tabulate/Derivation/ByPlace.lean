import Tabulate.Derivation.TimeAttribute

/-!
# Fields by place

The parts of a shape are taken in their order, and a reference names the part at its own place.  A
row-time attribute may stand at the place of a part with a time type.  Behind the last part only
time attributes can stand, and a proc-time attribute can stand nowhere else.
-/

namespace Tabulate

/-- Refuse an expression that stands at the place of a part. -/
def Shape.checkBehind (shape : Shape) (place : Nat) (expression : Expression) :
    Except Fault Unit :=
  if place < shape.arity then .error (.proctimeBeforeEnd expression) else .ok ()

/-- Refuse a place whose part may not give way to a row-time attribute. -/
def Shape.checkReplaceable (shape : Shape) (place : Nat) : Except Fault Unit :=
  match shape.typeAt? place with
  | some type => type.checkRowtime
  | none => .ok ()

/-- The field that an expression at the given place asks for. -/
def Expression.fieldByPlace (precision : UInt8) (shape : Shape) (place : Nat)
    (expression : Expression) : Except Fault Field :=
  match expression with
  | .reference name =>
    match shape.typeAt? place with
    | some type => .ok { name, origin := .physical place, type }
    | none => .error (.noPartAtPlace shape.partNames expression)
  | .renamed (.proctime inner) name => do
    shape.checkBehind place expression
    let _ ← inner.expectReference
    return .ofProctime precision name
  | .renamed _ name => .error (.renamedByPlace name)
  | .rowtime inner => do
    shape.checkReplaceable place
    return .ofRowtime precision (← inner.expectReference)
  | .proctime inner => do
    shape.checkBehind place expression
    return .ofProctime precision (← inner.expectReference)
  | .unsupported _ => .error .fieldExpected

/-- The fields that some expressions ask for, each at its own place. -/
def Shape.fieldsByPlace (precision : UInt8) (shape : Shape) (expressions : List Expression) :
    Except Fault (List Field) :=
  expressions.zipIdx.mapM fun entry => entry.1.fieldByPlace precision shape entry.2

end Tabulate
