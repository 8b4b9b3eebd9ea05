import Tabulate.Json

/-!
# Records in JSON

A record is written as an object, with its members in any order, or as an array, with its members
in the declared order.  Unknown members of an object are ignored, but a known one may not be
repeated.  An array may stop early, and may not be too long.

A tagged record names its case in one further member, which comes first in an array.  Inside a
tagged record, the case of another one may also be given by its number.
-/

namespace Tabulate
namespace Json

/-- The members that a value offers, found by name or by place. -/
inductive Record (α : Type) where
  | named (members : List (String × α))
  | placed (elements : List α)

namespace Record

variable {α : Type}

/-- The record that a value writes. -/
def ofJson? : Json → Option (Record Json)
  | .object members => some (.named members)
  | .array elements => some (.placed elements)
  | _ => none

/-- The value of the member called `name`, or `none` within if there is no such member.  A repeated
member is refused. -/
def member? (name : String) (members : List (String × α)) : Option (Option α) :=
  match members.filter (·.1 = name) with
  | [] => some none
  | [(_, value)] => some (some value)
  | _ => none

/-- The members of the given names, each present or missing. -/
def fields? (names : List String) : Record α → Option (List (Option α))
  | .named members => names.mapM (member? · members)
  | .placed elements =>
    if elements.length ≤ names.length then
      some (elements.map some ++ List.replicate (names.length - elements.length) none)
    else
      none

/-- The case that a tagged record names, and the record without its tag. -/
def tagged? (tag : String) (toText? : α → Option String) :
    Record α → Option (String × Record α)
  | .named members => do
    let value ← (← member? tag members)
    some (← toText? value, .named (members.filter (·.1 ≠ tag)))
  | .placed [] => none
  | .placed (value :: elements) => do
    some (← toText? value, .placed elements)

/-- Accept a record of a case without members. -/
def empty? (record : Record α) : Option Unit :=
  (record.fields? []).map fun _ => ()

end Record

/-- The case that a tag gives by its name, or by its number in the list of all cases. -/
def toCase? (cases : List String) : Json → Option String
  | .text name => some name
  | .number (.natural place) => cases[place]?
  | _ => none

/-- Read a member that may be missing. -/
def orDefault {α β : Type} (fallback : β) (read : α → Option β) : Option α → Option β
  | none => some fallback
  | some value => read value

end Json
end Tabulate
