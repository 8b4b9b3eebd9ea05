import Tabulate.Json.Token

/-!
# Drafts of values

A draft is a value as its text writes it, before it is decided which parts of it are read.  A part
that is not read may nest as deeply as it likes, and may hold texts and numbers without a value.

The tokens of a text are read one by one, and the containers that are still open stand on a stack,
innermost first.
-/

namespace Tabulate
namespace Json

/-- A value as its text writes it. -/
inductive Draft where
  | null
  | boolean (truth : Bool)
  | number (number : Number)
  /-- A quoted text, which may have no content. -/
  | text (content : Option String)
  | array (elements : List Draft)
  /-- An object, whose names may have no content either. -/
  | object (members : List (Option String × Draft))

namespace Draft

/-- An open container.  What has been read of it has the latest first. -/
inductive Frame where
  /-- An array that waits for its next element. -/
  | array (read : List Draft)
  /-- An object that waits for the value of a member. -/
  | object (read : List (Option String × Draft)) (name : Option String)

/-- How far the reading of a draft has come. -/
inductive Assembly where
  /-- A value must follow. -/
  | awaitValue (stack : List Frame)
  /-- An array has just been opened. -/
  | arrayStart (stack : List Frame)
  /-- An object has just been opened. -/
  | objectStart (stack : List Frame)
  /-- The name of a further member must follow. -/
  | awaitName (read : List (Option String × Draft)) (stack : List Frame)
  /-- The colon after the name of a member must follow. -/
  | awaitColon (read : List (Option String × Draft)) (name : Option String)
    (stack : List Frame)
  /-- A value is complete. -/
  | complete (draft : Draft) (stack : List Frame)

namespace Assembly

def start (stack : List Frame) : Token → Option Assembly
  | .openBracket => some (.arrayStart stack)
  | .openBrace => some (.objectStart stack)
  | .null => some (.complete .null stack)
  | .boolean truth => some (.complete (.boolean truth) stack)
  | .number written => some (.complete (.number written) stack)
  | .text content => some (.complete (.text content) stack)
  | _ => none

def follow (draft : Draft) (stack : List Frame) (token : Token) : Option Assembly :=
  match stack, token with
  | .array read :: stack, .comma => some (.awaitValue (.array (draft :: read) :: stack))
  | .array read :: stack, .closeBracket => some (.complete (.array (draft :: read).reverse) stack)
  | .object read name :: stack, .comma => some (.awaitName ((name, draft) :: read) stack)
  | .object read name :: stack, .closeBrace =>
    some (.complete (.object ((name, draft) :: read).reverse) stack)
  | _, _ => none

def advance (assembly : Assembly) (token : Token) : Option Assembly :=
  match assembly with
  | .awaitValue stack => start stack token
  | .arrayStart stack =>
    if token = .closeBracket then some (.complete (.array []) stack)
    else start (.array [] :: stack) token
  | .objectStart stack =>
    match token with
    | .closeBrace => some (.complete (.object []) stack)
    | .text name => some (.awaitColon [] name stack)
    | _ => none
  | .awaitName read stack =>
    match token with
    | .text name => some (.awaitColon read name stack)
    | _ => none
  | .awaitColon read name stack =>
    if token = .colon then some (.awaitValue (.object read name :: stack)) else none
  | .complete draft stack => follow draft stack token

/-- The draft, once it is complete and no container is open. -/
def finish : Assembly → Option Draft
  | .complete draft [] => some draft
  | _ => none

end Assembly

/-- The draft that some tokens write. -/
def ofTokens? (tokens : List Token) : Option Draft := do
  (← tokens.foldlM Assembly.advance (.awaitValue [])).finish

/-- The draft that a text writes. -/
def ofText? (text : String) : Option Draft := do
  ofTokens? (← Token.scan text.toList)

end Draft
end Json
end Tabulate
