import Tabulate.Column
import Tabulate.Names
import Tabulate.Text.Blank

/-!
# Shapes of input rows

A shape says how the rows of an input are laid out, and where the type of a row is declared.  A row
is a single value, a sequence of named parts, or a record about which nothing is known.  The parts
of a positional row may also be addressed by their place.
-/

namespace Tabulate

/-- Who may use a type. -/
inductive Visibility where
  | global
  | restricted
  deriving DecidableEq

/-- Where a type is declared. -/
inductive Nesting where
  | topLevel
  /-- Inside another type, without a tie to one of its instances. -/
  | staticNested
  /-- Inside another type, and tied to one of its instances. -/
  | inner
  deriving DecidableEq

/-- How the type of a row is declared. -/
structure Declaration where
  /-- The full name, which anonymous and local types lack. -/
  name : Option String
  visibility : Visibility := .global
  nesting : Nesting := .topLevel
  deriving DecidableEq

namespace Declaration

/-- The name to show for a declared type. -/
def displayName (declaration : Declaration) : String :=
  declaration.name.getD "<anonymous>"

/-- Whether a name is present and not blank. -/
def hasName (declaration : Declaration) : Bool :=
  declaration.name.any fun name => !Text.isBlankText name

/-- Whether a type can be named from everywhere and exists without an enclosing instance. -/
def isAccessible (declaration : Declaration) : Bool :=
  declaration.nesting ≠ .inner && declaration.visibility = .global && declaration.hasName

end Declaration

inductive Layout where
  /-- A single value without a name. -/
  | atomic (type : ColumnType)
  /-- Named parts in a fixed order. -/
  | composite (parts : List Column) (positional : Bool)
  /-- A record whose parts are unknown. -/
  | generic
  deriving DecidableEq

/-- The shape of the rows of an input. -/
structure Shape where
  declaration : Declaration
  layout : Layout
  deriving DecidableEq

namespace Shape

/-- The parts of a composite shape; no other shape has parts. -/
def parts (shape : Shape) : List Column :=
  match shape.layout with
  | .composite parts _ => parts
  | _ => []

def arity (shape : Shape) : Nat :=
  shape.parts.length

def partNames (shape : Shape) : List String :=
  shape.parts.map Column.name

def typeAt? (shape : Shape) (place : Nat) : Option ColumnType :=
  shape.parts[place]?.map Column.type

/-- The place of the first part of a name. -/
def placeOf? (shape : Shape) (name : String) : Option Nat :=
  shape.parts.findIdx? (·.name = name)

def isComposite (shape : Shape) : Bool :=
  match shape.layout with
  | .composite _ _ => true
  | _ => false

/-- Whether a shape has parts that may be addressed by their place. -/
def isPositional (shape : Shape) : Bool :=
  match shape.layout with
  | .composite _ positional => positional
  | _ => false

/-- Whether nothing is known about the parts of a shape. -/
def isGeneric (shape : Shape) : Bool :=
  match shape.layout with
  | .generic => true
  | _ => false

def display (shape : Shape) : String :=
  let name := shape.declaration.displayName
  match shape.layout with
  | .atomic type => name ++ "<" ++ type.display ++ ">"
  | .composite parts _ => name ++ "(" ++ Names.commaSeparated (parts.map Column.display) ++ ")"
  | .generic => "GenericRecord<" ++ name ++ ">"

end Shape
end Tabulate
