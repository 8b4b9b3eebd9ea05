import Tabulate.Derivation

/-!
# Runs of derivations

Names can be stacked: each shape adds its names to those that the next one must avoid.  Derivations
can be chained: the table of one stage is the input of the next.
-/

namespace Tabulate

/-- The names of a shape that avoid those taken, and the names that are taken after it. -/
def Settings.stack (settings : Settings) (taken : List String) (shape : Shape) :
    Except Fault (List String) × List String :=
  match settings.fieldNames shape taken with
  | .ok names => (.ok names, taken ++ names)
  | .error fault => (.error fault, taken)

/-- The names of several shapes in turn, each avoiding those before it. -/
def Settings.stackNames (settings : Settings) :
    List String → List Shape → List (Except Fault (List String))
  | _, [] => []
  | taken, shape :: shapes =>
    let outcome := settings.stack taken shape
    outcome.1 :: stackNames settings outcome.2 shapes

/-- One stage of a chain: what to derive, and whether the rows of its table are positional. -/
structure Stage where
  expressions : List Expression
  positional : Bool := false
  deriving DecidableEq

/-- The shape of the rows of a table, declared like the rows it was derived from. -/
def Shape.ofTable (declaration : Declaration) (table : Table) (positional : Bool) : Shape where
  declaration := declaration
  layout := .composite table.columns positional

/-- What a stage derives from a shape, and the shape that it leaves.  A refused stage leaves the
shape as it was. -/
def Stage.run (settings : Settings) (stage : Stage) (shape : Shape) :
    Except Fault Schema × Shape :=
  match settings.derive shape stage.expressions with
  | .ok schema => (.ok schema, .ofTable shape.declaration schema.table stage.positional)
  | .error fault => (.error fault, shape)

/-- The outcomes of a chain of stages, each with the shape behind it. -/
def Settings.chain (settings : Settings) :
    Shape → List Stage → List (Except Fault Schema × Shape)
  | _, [] => []
  | shape, stage :: stages =>
    let outcome := stage.run settings shape
    outcome :: chain settings outcome.2 stages

end Tabulate
