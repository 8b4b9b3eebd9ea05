import Tabulate.Expression
import Tabulate.Field
import Tabulate.Shape
import Tabulate.Text.Quoted

/-!
# Faults

A fault is the cause for which a derivation, a schema or a setting is refused.  Each cause belongs
to one category and has one wording.
-/

namespace Tabulate

/-- Who can mend a fault. -/
inductive Category where
  /-- The author of the expressions. -/
  | validation
  /-- The author of the shape, or of the call. -/
  | structural
  /-- The author of the settings. -/
  | configuration
  deriving DecidableEq

/-- A refusal in words. -/
structure Report where
  category : Category
  message : String
  deriving DecidableEq

namespace Report

/-- The words that announce a category. -/
def heading : Category → String
  | .validation => "Validation error: "
  | .structural => "Structural error: "
  | .configuration => "Configuration error: "

def display (report : Report) : String :=
  heading report.category ++ report.message

/-- Whether other expressions could mend the fault. -/
def isValidation (report : Report) : Bool :=
  report.category = .validation

/-- Whether the setup of the call is at fault. -/
def isStructural (report : Report) : Bool :=
  report.category = .structural

end Report

/-- The cause of a refusal. -/
inductive Fault where
  /-- The type behind the shape cannot be named from everywhere. -/
  | inaccessible (shape : Shape)
  /-- The parts of the shape are unknown. -/
  | unknownParts
  /-- A name taken from the shape is the star. -/
  | starPart
  /-- A resolved field is named by the star. -/
  | starField
  /-- Some of these names are equal. -/
  | repeatedNames (names : List String)
  /-- These are several row-time attributes. -/
  | rowtimesRepeated (fields : List Field)
  /-- These are several proc-time attributes. -/
  | proctimesRepeated (fields : List Field)
  /-- A schema is made of lists of different lengths. -/
  | lengthMismatch (names : List String) (origins : List Origin) (types : List ColumnType)
  /-- A schema is made with several row-time attributes. -/
  | rowtimeCount (count : Nat)
  /-- A schema is made with several proc-time attributes. -/
  | proctimeCount (count : Nat)
  /-- A schema is made with the wrong statement about its row-time attribute. -/
  | rowtimeFlag (stated : Bool) (count : Nat)
  /-- An expression refers to a place behind the last part. -/
  | noPartAtPlace (available : List String) (expression : Expression)
  /-- A proc-time attribute stands at the place of a part. -/
  | proctimeBeforeEnd (expression : Expression)
  /-- A new name is given while parts are referred to by place. -/
  | renamedByPlace (name : String)
  /-- A row-time attribute would replace a part of another type. -/
  | notRowtimeType (type : ColumnType)
  /-- Something else stands where a reference must. -/
  | referenceExpected
  /-- Something else stands where a reference or a renamed reference must. -/
  | fieldExpected
  /-- No part of the shape has this name. -/
  | unknownPart (name : String) (shape : Shape)
  /-- A row-time attribute that replaces no part is given a new name. -/
  | renamedNewRowtime (name : String)
  /-- A proc-time attribute refers to a part. -/
  | proctimeReplaces (name : String)
  /-- The value of an atomic shape is referred to twice. -/
  | secondReference
  /-- The base name for lone values is empty. -/
  | emptyBaseName
  /-- The base name for lone values is the star. -/
  | starBaseName
  /-- The precision of time attributes is too great. -/
  | precisionTooGreat (precision : UInt8)
  /-- The overriding precision is not a byte. -/
  | unreadablePrecision (raw : String)
  deriving DecidableEq

/-- The greatest precision of a time attribute. -/
def greatestPrecision : UInt8 := 9

/-- The environment variable that overrides the base name for lone values. -/
def baseNameVariable : String := "FIELD_SCHEMA_ATOMIC_FIELD_NAME"

/-- The environment variable that overrides the precision of time attributes. -/
def precisionVariable : String := "FIELD_SCHEMA_TIME_PRECISION"

namespace Fault

def category : Fault → Category
  | inaccessible _ => .structural
  | starPart => .structural
  | lengthMismatch _ _ _ => .structural
  | rowtimeFlag _ _ => .structural
  | emptyBaseName => .configuration
  | starBaseName => .configuration
  | precisionTooGreat _ => .configuration
  | unreadablePrecision _ => .configuration
  | _ => .validation

/-- The common start of the wordings about repeated row-time attributes. -/
def rowtimeOnce : String :=
  "The rowtime attribute can only be defined once in a table schema"

/-- The common start of the wordings about repeated proc-time attributes. -/
def proctimeOnce : String :=
  "The proctime attribute can only be defined once in a table schema"

/-- The fields of a list, shown one after the other. -/
def showFields (fields : List Field) : String :=
  "[" ++ Names.commaSeparated (fields.map Field.display) ++ "]"

/-- The wording of a cause. -/
def message : Fault → String
  | inaccessible shape =>
    "Type '" ++ shape.declaration.displayName ++ "' described in shape '" ++ shape.display ++
      "' must be static and globally accessible."
  | unknownParts =>
    "An input of a generic record shape cannot be converted to a table. " ++
      "Please specify an explicit shape for the input."
  | starPart => "Field name can not be '*'."
  | starField => "Field name can not be '*'."
  | repeatedNames names =>
    "Field names must be unique.\nList of duplicate fields: [" ++
      Names.commaSeparated (Names.repeated names) ++ "].\nList of all fields: [" ++
      Names.commaSeparated names ++ "]."
  | rowtimesRepeated fields =>
    rowtimeOnce ++ ". Duplicated rowtime attributes: " ++ showFields fields
  | proctimesRepeated fields =>
    proctimeOnce ++ ". Duplicated proctime attributes: " ++ showFields fields
  | lengthMismatch names origins types =>
    "Mismatched number of indices, names and types:\nNames: " ++ Text.quotedList names ++
      "\nIndices: " ++ Text.quotedList (origins.map Origin.display) ++
      "\nTypes: " ++ Text.quotedList (types.map ColumnType.display)
  | rowtimeCount count => rowtimeOnce ++ ", found " ++ toString count ++ "."
  | proctimeCount count => proctimeOnce ++ ", found " ++ toString count ++ "."
  | rowtimeFlag stated count =>
    "Row-time flag is " ++ toString stated ++ " but the schema declares " ++ toString count ++
      " row-time attributes."
  | noPartAtPlace available expression =>
    "Number of expressions does not match number of input fields.\nAvailable fields: [" ++
      Names.commaSeparated available ++ "]\nCould not map: " ++ expression.display
  | proctimeBeforeEnd expression =>
    "The proctime attribute can only be appended to the table schema and not replace " ++
      "an existing field. Please move '" ++ expression.display ++ "' to the end of the schema."
  | renamedByPlace name =>
    "Alias '" ++ name ++ "' is not allowed if other fields are referenced by position."
  | notRowtimeType type =>
    "The rowtime attribute can only replace a field with a valid time type, " ++
      "such as Timestamp or Long. But was: " ++ type.display
  | referenceExpected => "Field reference expression expected."
  | fieldExpected => "Field reference expression or alias on field expression expected."
  | unknownPart name shape =>
    name ++ " is not a field of type " ++ shape.display ++ ". Expected: " ++
      Names.commaSeparated shape.partNames
  | renamedNewRowtime name => "Alias '" ++ name ++ "' must reference an existing field."
  | proctimeReplaces name =>
    "The proctime attribute '" ++ name ++ "' must not replace an existing field."
  | secondReference => "Too many fields referenced from an atomic type."
  | emptyBaseName => "atomic_field_name cannot be empty"
  | starBaseName => "atomic_field_name can not be '*'"
  | precisionTooGreat precision =>
    "time_indicator_precision must be between 0 and " ++ toString greatestPrecision ++ ", got " ++
      toString precision
  | unreadablePrecision raw =>
    precisionVariable ++ " must be an integer, got '" ++ raw ++ "'"

/-- A cause in words. -/
def report (fault : Fault) : Report where
  category := fault.category
  message := fault.message

end Fault
end Tabulate
