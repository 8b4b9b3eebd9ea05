import Tabulate.Json.Draft

/-!
# Reading what is needed

An outline says which parts of a text are read.  A member that its outline passes over may hold
anything that follows the grammar.  In all that is read, containers may nest up to a limit, no
number is too great, and surrogates stand in pairs.
-/

namespace Tabulate
namespace Json

/-- Which parts of a value are read. -/
inductive Outline where
  /-- Everything. -/
  | whole
  /-- The elements of an array, each by the same outline. -/
  | list (element : Outline)
  /-- The members of these names, in the declared order, each by its own outline.  All other members
  are read as a whole if `others` is true, and passed over if not. -/
  | record (members : List (String × Outline)) (others : Bool)

namespace Outline

/-- The outline of a record with members that are read as a whole and nothing else. -/
def plain (names : List String) : Outline :=
  .record (names.map fun name => (name, .whole)) false

/-- The outline of the member called `name`, unless it is passed over. -/
def member? (name : String) : Outline → Option Outline
  | record members others =>
    match members.lookup name with
    | some outline => some outline
    | none => if others then some .whole else none
  | _ => some .whole

/-- The outline of the element at a place. -/
def element (place : Nat) : Outline → Outline
  | whole => .whole
  | list outline => outline
  | record members _ => members[place]?.elim .whole Prod.snd

theorem member?_plain (name : String) (names : List String) :
    (plain names).member? name = if name ∈ names then some .whole else none := by
  induction names with
  | nil => rfl
  | cons first names ih =>
    simp only [plain, member?, List.map_cons, List.lookup_cons] at ih ⊢
    by_cases same : name = first
    · simp [same]
    · rw [beq_false_of_ne same]
      simpa [same] using ih

end Outline

namespace Draft

mutual

/-- The value of a draft, read by its outline, with at most `room` containers inside each other. -/
def read? (outline : Outline) (room : Nat) : Draft → Option Json
  | .null => some .null
  | .boolean truth => some (.boolean truth)
  | .number written => if written.isReadable then some (.number written) else none
  | .text content => content.map .text
  | .array elements =>
    match room with
    | 0 => none
    | room + 1 => (readElements outline room 0 elements).map .array
  | .object members =>
    match room with
    | 0 => none
    | room + 1 => (readMembers outline room members).map .object

/-- The values of the elements of an array from a place on. -/
def readElements (outline : Outline) (room place : Nat) : List Draft → Option (List Json)
  | [] => some []
  | draft :: drafts => do
    let element ← read? (outline.element place) room draft
    let elements ← readElements outline room (place + 1) drafts
    some (element :: elements)

/-- The members of an object that are not passed over. -/
def readMembers (outline : Outline) (room : Nat) :
    List (Option String × Draft) → Option (List (String × Json))
  | [] => some []
  | (none, _) :: _ => none
  | (some name, draft) :: drafts =>
    match outline.member? name with
    | none => readMembers outline room drafts
    | some inner => do
      let value ← read? inner room draft
      let members ← readMembers outline room drafts
      some ((name, value) :: members)

end

end Draft

/-- The value that a text writes, read by its outline, with at most `room` containers inside each
other. -/
def readWithin? (room : Nat) (outline : Outline) (text : String) : Option Json := do
  (← Draft.ofText? text).read? outline room

/-- The greatest nesting of containers that is read from text. -/
def nestingLimit : Nat := 127

/-- The value that a text writes, read by its outline. -/
def read? (outline : Outline) (text : String) : Option Json :=
  readWithin? nestingLimit outline text

end Json
end Tabulate
