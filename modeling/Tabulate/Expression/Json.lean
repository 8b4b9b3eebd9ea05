import Tabulate.Expression
import Tabulate.Json.Outline
import Tabulate.Json.Record

/-!
# Expressions in JSON

An expression is a record tagged by `kind`.  Reading goes from the leaves to the root: each member
is paired with the expression that its value writes, and the record then picks the members it
needs.  The tag of an inner expression may be a number.
-/

namespace Tabulate
namespace Expression

def toJson : Expression → Json
  | reference name => .object [("kind", .text "reference"), ("name", .text name)]
  | renamed inner name =>
    .object [("kind", .text "alias"), ("expr", inner.toJson), ("name", .text name)]
  | rowtime inner => .object [("kind", .text "row_time"), ("expr", inner.toJson)]
  | proctime inner => .object [("kind", .text "proc_time"), ("expr", inner.toJson)]
  | unsupported description =>
    .object [("kind", .text "unsupported"), ("description", .text description)]

/-- A member of a record: its value, and the expression which that value writes. -/
structure Member where
  json : Json
  expression : Option Expression

/-- The text that a member holds. -/
def Member.text? (member : Member) : Option String :=
  member.json.toText?

/-- The expression of the given case whose members stand in a record. -/
def ofRecord? (record : Json.Record Member) : String → Option Expression
  | "reference" => do
    let [some name] ← record.fields? ["name"] | none
    some (reference (← name.text?))
  | "alias" => do
    let [some inner, some name] ← record.fields? ["expr", "name"] | none
    some (renamed (← inner.expression) (← name.text?))
  | "row_time" => do
    let [some inner] ← record.fields? ["expr"] | none
    some (rowtime (← inner.expression))
  | "proc_time" => do
    let [some inner] ← record.fields? ["expr"] | none
    some (proctime (← inner.expression))
  | "unsupported" => do
    let [some description] ← record.fields? ["description"] | none
    some (unsupported (← description.text?))
  | _ => none

/-- The names of all cases, in order. -/
def cases : List String :=
  ["reference", "alias", "row_time", "proc_time", "unsupported"]

/-- The expression that a record writes, with `readTag` for its tag. -/
def ofTagged? (readTag : Json → Option String) (record : Json.Record Member) :
    Option Expression := do
  let (tag, record) ← record.tagged? "kind" fun member => readTag member.json
  ofRecord? record tag

mutual

/-- The expression that a JSON value writes inside a tagged record. -/
def ofInnerJson? : Json → Option Expression
  | .object members => ofTagged? (Json.toCase? cases) (.named (readMembers members))
  | .array elements => ofTagged? (Json.toCase? cases) (.placed (readElements elements))
  | _ => none

/-- The members of an object with the expressions that they write. -/
def readMembers : List (String × Json) → List (String × Member)
  | [] => []
  | (name, json) :: members => (name, ⟨json, ofInnerJson? json⟩) :: readMembers members

/-- The elements of an array with the expressions that they write. -/
def readElements : List Json → List Member
  | [] => []
  | json :: elements => ⟨json, ofInnerJson? json⟩ :: readElements elements

end

def ofJson? : Json → Option Expression
  | .object members => ofTagged? Json.toText? (.named (readMembers members))
  | .array elements => ofTagged? Json.toText? (.placed (readElements elements))
  | _ => none

/-- The expressions that a JSON array writes. -/
def listOfJson? (json : Json) : Option (List Expression) :=
  json.toList? ofJson?

def listOfText? (text : String) : Option (List Expression) := do
  listOfJson? (← Json.read? .whole text)

/-- The JSON array that writes some expressions. -/
def listToJson (expressions : List Expression) : Json :=
  .array (expressions.map toJson)

theorem readMembers_eq_map (members : List (String × Json)) :
    readMembers members =
      members.map fun member => (member.1, ⟨member.2, ofInnerJson? member.2⟩) := by
  induction members with
  | nil => simp [readMembers]
  | cons member members ih => simp [readMembers, ih]

theorem readElements_eq_map (elements : List Json) :
    readElements elements = elements.map fun json => ⟨json, ofInnerJson? json⟩ := by
  induction elements with
  | nil => simp [readElements]
  | cons json elements ih => simp [readElements, ih]

end Expression
end Tabulate
