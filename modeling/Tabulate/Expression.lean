/-!
# Field expressions

An expression asks for one field of a table: a part of the input under its own name or another, or a
time attribute.  Anything richer is carried along as a description, only to be refused.
-/

namespace Tabulate

/-- A request for one field. -/
inductive Expression where
  /-- The part of the input called `name`. -/
  | reference (name : String)
  /-- The field that `inner` asks for, under another name. -/
  | renamed (inner : Expression) (name : String)
  /-- The field that `inner` asks for, as the row-time attribute. -/
  | rowtime (inner : Expression)
  /-- The field that `inner` asks for, as the proc-time attribute. -/
  | proctime (inner : Expression)
  /-- An expression of another kind. -/
  | unsupported (description : String)
  deriving DecidableEq

namespace Expression

/-- The name in a plain reference. -/
def reference? : Expression → Option String
  | reference name => some name
  | _ => none

def display : Expression → String
  | reference name => name
  | renamed inner name => "as(" ++ inner.display ++ ", '" ++ name ++ "')"
  | rowtime inner => "rowtime(" ++ inner.display ++ ")"
  | proctime inner => "proctime(" ++ inner.display ++ ")"
  | unsupported description => description

/-- The height of an expression; a leaf has height one. -/
def height : Expression → Nat
  | reference _ => 1
  | renamed inner _ => inner.height + 1
  | rowtime inner => inner.height + 1
  | proctime inner => inner.height + 1
  | unsupported _ => 1

end Expression
end Tabulate
