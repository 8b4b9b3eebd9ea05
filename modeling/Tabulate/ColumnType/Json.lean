import Tabulate.ColumnType
import Tabulate.Json.Outline
import Tabulate.Json.Record

/-!
# Column types in JSON

A type is a record tagged by `type`.  The precision and the role of a time type may be missing.

A type is read in two ways.  On its own, or in a record without a tag, its tag is a name.  Inside a
tagged record, the tag may be a number as well.
-/

namespace Tabulate

def TimeRole.name : TimeRole → String
  | regular => "regular"
  | rowtime => "rowtime"
  | proctime => "proctime"

def TimeRole.ofName? : String → Option TimeRole
  | "regular" => some regular
  | "rowtime" => some rowtime
  | "proctime" => some proctime
  | _ => none

namespace ColumnType

/-- The precision of a time of day that does not state one. -/
def defaultTimePrecision : UInt8 := 0

/-- The precision of a timestamp that does not state one. -/
def defaultTimestampPrecision : UInt8 := 3

/-- The names of all cases, in order. -/
def cases : List String :=
  ["boolean", "tiny_int", "small_int", "integer", "big_int", "float", "double", "decimal",
    "varchar", "binary", "date", "time", "timestamp", "raw"]

/-- The members of a type, its tag first. -/
def members : ColumnType → List (String × Json)
  | boolean => [("type", .text "boolean")]
  | tinyInt => [("type", .text "tiny_int")]
  | smallInt => [("type", .text "small_int")]
  | integer => [("type", .text "integer")]
  | bigInt => [("type", .text "big_int")]
  | float => [("type", .text "float")]
  | double => [("type", .text "double")]
  | decimal precision scale =>
    [("type", .text "decimal"), ("precision", .byte precision), ("scale", .byte scale)]
  | varchar => [("type", .text "varchar")]
  | binary => [("type", .text "binary")]
  | date => [("type", .text "date")]
  | time precision => [("type", .text "time"), ("precision", .byte precision)]
  | timestamp precision role =>
    [("type", .text "timestamp"), ("precision", .byte precision), ("kind", .text role.name)]
  | raw typeName => [("type", .text "raw"), ("type_name", .text typeName)]

def toJson (type : ColumnType) : Json :=
  .object type.members

def roleOfJson? (json : Json) : Option TimeRole := do
  TimeRole.ofName? (← json.toInnerName?)

/-- The type of the given case whose members stand in a record. -/
def ofRecord? (record : Json.Record Json) : String → Option ColumnType
  | "boolean" => record.empty?.map fun _ => boolean
  | "tiny_int" => record.empty?.map fun _ => tinyInt
  | "small_int" => record.empty?.map fun _ => smallInt
  | "integer" => record.empty?.map fun _ => integer
  | "big_int" => record.empty?.map fun _ => bigInt
  | "float" => record.empty?.map fun _ => float
  | "double" => record.empty?.map fun _ => double
  | "decimal" => do
    let [some precision, some scale] ← record.fields? ["precision", "scale"] | none
    some (decimal (← precision.toByte?) (← scale.toByte?))
  | "varchar" => record.empty?.map fun _ => varchar
  | "binary" => record.empty?.map fun _ => binary
  | "date" => record.empty?.map fun _ => date
  | "time" => do
    let [precision] ← record.fields? ["precision"] | none
    some (time (← Json.orDefault defaultTimePrecision Json.toByte? precision))
  | "timestamp" => do
    let [precision, role] ← record.fields? ["precision", "kind"] | none
    some (timestamp (← Json.orDefault defaultTimestampPrecision Json.toByte? precision)
      (← Json.orDefault .regular roleOfJson? role))
  | "raw" => do
    let [some typeName] ← record.fields? ["type_name"] | none
    some (raw (← typeName.toText?))
  | _ => none

/-- The type that a JSON value writes, with `readTag` for its tag. -/
def ofTagged? (readTag : Json → Option String) (json : Json) : Option ColumnType := do
  let (tag, record) ← (← Json.Record.ofJson? json).tagged? "type" readTag
  ofRecord? record tag

def ofJson? (json : Json) : Option ColumnType :=
  ofTagged? Json.toText? json

def ofText? (text : String) : Option ColumnType := do
  ofJson? (← Json.read? .whole text)

/-- The type that a JSON value writes inside a tagged record. -/
def ofInnerJson? (json : Json) : Option ColumnType :=
  ofTagged? (Json.toCase? cases) json

end ColumnType
end Tabulate
