import Tabulate.Toml.Literal
import Tabulate.Toml.Token

/-!
# From tokens to a document

The tokens of a document are read one by one.  A line holds a header, or a key with its value.  The
arrays and braces of a value that are still open stand on a stack, innermost first; arrays may run
over several lines.  The height of the stack and the number of parts of a key are bounded.
-/

namespace Tabulate
namespace Toml

/-- What is open around a value. -/
inductive Frame where
  /-- An array, with its elements so far, the latest first. -/
  | array (read : List Item)
  /-- Braces, with their entries so far and the key that the value is for. -/
  | braces (entries : Entries) (path : List String) (key : String)

/-- Where a value goes: what is open around it, and the key on whose line it stands. -/
structure Target where
  frames : List Frame
  path : List String
  key : String

/-- What a key is for. -/
inductive Purpose where
  /-- A header, of a list of tables if it is repeated. -/
  | header (repeated : Bool)
  /-- A value on the same line. -/
  | line
  /-- A value inside braces that have some entries already. -/
  | member (entries : Entries) (around : Target)

/-- What has been read of the line at hand. -/
inductive Place where
  /-- Nothing but blanks. -/
  | lineStart
  /-- A header, after which the line must end. -/
  | headed
  /-- The first bracket of a header. -/
  | bracket
  /-- A key up to a place where a part must follow, the latest part first. -/
  | awaitPart (purpose : Purpose) (read : List String)
  /-- A key up to the end of a part, the latest part first. -/
  | part (purpose : Purpose) (read : List String)
  /-- The first of the two brackets that close a repeated header, the latest part first. -/
  | closing (read : List String)
  /-- A value must follow. -/
  | awaitValue (target : Target)
  /-- An array, up to a place where an element or the end may follow. -/
  | element (read : List Item) (around : Target)
  /-- The brace that opens a table. -/
  | brace (around : Target)
  /-- The characters of a bare value. -/
  | literal (read : List Char) (target : Target)
  /-- A date and one space, after which a time of day may follow. -/
  | date (read : List Char) (target : Target)
  /-- A complete value. -/
  | complete (item : Item) (target : Target)

/-- A document half read: its entries so far, the header that was read last, and the line at hand.
-/
structure Assembly where
  entries : Entries
  header : List String
  place : Place

/-- The parts of a key, and the brackets around a value, are fewer than this. -/
def nestingBound : Nat := 80

namespace Target

/-- Whether a value may have brackets of its own. -/
def mayNest (target : Target) : Bool :=
  target.frames.length + 1 < nestingBound

/-- Put a further frame around a value. -/
def within (frame : Frame) (target : Target) : Target :=
  { target with frames := frame :: target.frames }

end Target

namespace Assembly

/-- Whether a character may occur in a part of a key without quotes. -/
def isBare (character : Char) : Bool :=
  character.isAlphanum || character = '_' || character = '-'

/-- The part of a key that a token writes. -/
def part? : Token → Option String
  | .word characters =>
    if characters.all isBare then some (String.ofList characters) else none
  | .quoted false content => some content
  | _ => none

def goTo (assembly : Assembly) (place : Place) : Assembly :=
  { assembly with place }

/-- Open the table of a header, or a further table in a list. -/
def open? (assembly : Assembly) (repeated : Bool) : List String → Option Assembly
  | [] => none
  | key :: earlier => do
    let path := earlier.reverse
    let entries ←
      if repeated then assembly.entries.openRow path key
      else assembly.entries.openTable path key
    some ⟨entries, path ++ [key], .headed⟩

def readPart (assembly : Assembly) (purpose : Purpose) (read : List String) (token : Token) :
    Option Assembly :=
  match part? token with
  | some part =>
    if read.length + 1 < nestingBound then some (assembly.goTo (.part purpose (part :: read)))
    else none
  | none => none

def closeKey (assembly : Assembly) (purpose : Purpose) (read : List String) (token : Token) :
    Option Assembly :=
  match purpose, token, read with
  | .header false, .closeBracket, read => assembly.open? false read
  | .header true, .closeBracket, read => some (assembly.goTo (.closing read))
  | .line, .equals, key :: earlier =>
    some (assembly.goTo (.awaitValue ⟨[], earlier.reverse, key⟩))
  | .member entries around, .equals, key :: earlier =>
    some (assembly.goTo (.awaitValue (around.within (.braces entries earlier.reverse key))))
  | _, _, _ => none

def readValue (assembly : Assembly) (target : Target) : Token → Option Assembly
  | .openBracket =>
    if target.mayNest then some (assembly.goTo (.element [] target)) else none
  | .openBrace => if target.mayNest then some (assembly.goTo (.brace target)) else none
  | .quoted _ content => some (assembly.goTo (.complete (.text content) target))
  | .word characters => some (assembly.goTo (.literal characters target))
  | _ => none

def follow (assembly : Assembly) (item : Item) (target : Target) (token : Token) :
    Option Assembly :=
  match target.frames, token with
  | _, .blank _ => some (assembly.goTo (.complete item target))
  | [], .lineEnd => do
    let entries ← assembly.entries.assignIn assembly.header target.path target.key item
    some ⟨entries, assembly.header, .lineStart⟩
  | .array _ :: _, .lineEnd => some (assembly.goTo (.complete item target))
  | .array read :: frames, .comma =>
    some (assembly.goTo (.element (item :: read) { target with frames }))
  | .array read :: frames, .closeBracket =>
    some (assembly.goTo (.complete (.array (item :: read).reverse) { target with frames }))
  | .braces entries path key :: frames, .comma => do
    let entries ← entries.assign path key item
    some (assembly.goTo (.awaitPart (.member entries { target with frames }) []))
  | .braces entries path key :: frames, .closeBrace => do
    let entries ← entries.assign path key item
    some (assembly.goTo (.complete (.table .closed entries) { target with frames }))
  | _, _ => none

def advance (assembly : Assembly) (token : Token) : Option Assembly :=
  match assembly.place, token with
  | .lineStart, .blank _ => some assembly
  | .lineStart, .lineEnd => some assembly
  | .lineStart, .openBracket => some (assembly.goTo .bracket)
  | .lineStart, token => readPart assembly .line [] token
  | .headed, .blank _ => some assembly
  | .headed, .lineEnd => some (assembly.goTo .lineStart)
  | .headed, _ => none
  | .bracket, .openBracket => some (assembly.goTo (.awaitPart (.header true) []))
  | .bracket, .blank _ => some (assembly.goTo (.awaitPart (.header false) []))
  | .bracket, token => readPart assembly (.header false) [] token
  | .awaitPart _ _, .blank _ => some assembly
  | .awaitPart purpose read, token => readPart assembly purpose read token
  | .part _ _, .blank _ => some assembly
  | .part purpose read, .dot => some (assembly.goTo (.awaitPart purpose read))
  | .part purpose read, token => closeKey assembly purpose read token
  | .closing read, .closeBracket => assembly.open? true read
  | .closing _, _ => none
  | .awaitValue _, .blank _ => some assembly
  | .awaitValue target, token => readValue assembly target token
  | .element _ _, .blank _ => some assembly
  | .element _ _, .lineEnd => some assembly
  | .element read around, .closeBracket =>
    some (assembly.goTo (.complete (.array read.reverse) around))
  | .element read around, token => readValue assembly (around.within (.array read)) token
  | .brace _, .blank _ => some assembly
  | .brace around, .closeBrace => some (assembly.goTo (.complete (.table .closed []) around))
  | .brace around, token => readPart assembly (.member [] around) [] token
  | .literal read target, .word characters =>
    some (assembly.goTo (.literal (read ++ characters) target))
  | .literal read target, .dot => some (assembly.goTo (.literal (read ++ ['.']) target))
  | .literal read target, token =>
    if token = .blank [' '] ∧ isDate read then some (assembly.goTo (.date read target))
    else do follow assembly (← Item.ofLiteral? read) target token
  | .date read target, .word characters =>
    some (assembly.goTo (.literal (read ++ ' ' :: characters) target))
  | .date read target, token => do follow assembly (← Item.ofLiteral? read) target token
  | .complete item target, token => follow assembly item target token

/-- The entries of a document that has been read to the start of a line. -/
def finish (assembly : Assembly) : Option Entries :=
  match assembly.place with
  | .lineStart => some assembly.entries
  | _ => none

end Assembly

namespace Entries

/-- The entries of the document that some tokens write.  The end of the document ends a line. -/
def ofTokens? (tokens : List Token) : Option Entries := do
  (← (tokens ++ [Token.lineEnd]).foldlM Assembly.advance ⟨[], [], .lineStart⟩).finish

/-- The entries of the document that a text writes. -/
def ofText? (text : String) : Option Entries := do
  ofTokens? (← Token.scan text.toList)

end Entries
end Toml
end Tabulate
