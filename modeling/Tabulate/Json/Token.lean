import Tabulate.Json.Number

/-!
# Tokens of JSON text

`Token.scan` cuts a text into brackets, separators, literals, numbers and quoted texts, one
character at a time.  Blanks between tokens are dropped.  A quoted text comes out with its escapes
resolved.  It has no content if it holds one half of a surrogate pair without the other.
-/

namespace Tabulate
namespace Json

/-- A token of JSON text. -/
inductive Token where
  | openBrace
  | closeBrace
  | openBracket
  | closeBracket
  | colon
  | comma
  | null
  | boolean (truth : Bool)
  | number (number : Number)
  | text (content : Option String)
  deriving DecidableEq

namespace Token

/-- A piece of a quoted text. -/
inductive Piece where
  | character (value : Char)
  /-- A code unit that is written by four digits. -/
  | unit (value : Nat)

/-- Whether a code unit is the leading half of a surrogate pair. -/
def isLead (unit : Nat) : Bool :=
  0xD800 ≤ unit && unit < 0xDC00

/-- Whether a code unit is the trailing half of a surrogate pair. -/
def isTrail (unit : Nat) : Bool :=
  0xDC00 ≤ unit && unit < 0xE000

/-- The character of a surrogate pair. -/
def ofPair (lead trail : Nat) : Char :=
  Char.ofNat (0x10000 + (lead - 0xD800) * 0x400 + (trail - 0xDC00))

/-- The characters that some pieces write, the latest piece first, in front of those that have been
found already. -/
def joinOnto? (found : List Char) : List Piece → Option (List Char)
  | [] => some found
  | .character value :: earlier => joinOnto? (value :: found) earlier
  | .unit trail :: .unit lead :: earlier =>
    if isTrail trail then
      if isLead lead then joinOnto? (ofPair lead trail :: found) earlier else none
    else if isLead trail then
      none
    else
      joinOnto? (Char.ofNat trail :: found) (.unit lead :: earlier)
  | .unit value :: earlier =>
    if isTrail value || isLead value then none
    else joinOnto? (Char.ofNat value :: found) earlier

/-- The token of a quoted text whose pieces have been read, the latest first. -/
def ofQuoted (read : List Piece) : Token :=
  .text ((joinOnto? [] read).map String.ofList)

/-- Where in a token the scanner stands.  What has been read of it has the latest first. -/
inductive Mode where
  /-- Not inside a token. -/
  | between
  /-- Inside a literal name: the characters still to come, and the token they complete. -/
  | word (awaited : List Char) (token : Token)
  /-- Inside a number. -/
  | numeral (read : List Char)
  /-- Inside a quoted text. -/
  | quoted (read : List Piece)
  /-- After a backslash in a quoted text. -/
  | escape (read : List Piece)
  /-- Inside the four digits of a code unit: its value so far, and how many digits must follow. -/
  | unit (read : List Piece) (value : Nat) (awaited : Nat)

/-- A scanner at work: where it stands, and the tokens completed so far, latest first. -/
structure Scanner where
  mode : Mode
  tokens : List Token

/-- The characters that may separate tokens. -/
def isSpace (character : Char) : Bool :=
  character = ' ' || character = '\t' || character = '\n' || character = '\r'

/-- The characters that may occur in a number. -/
def isNumeral (character : Char) : Bool :=
  character.isDigit || character = '-' || character = '+' || character = '.' ||
    character = 'e' || character = 'E'

/-- Read the character that starts a token or separates two. -/
def start (tokens : List Token) (character : Char) : Option Scanner :=
  if isSpace character then some ⟨.between, tokens⟩
  else if isNumeral character then some ⟨.numeral [character], tokens⟩
  else match character with
    | '\x7b' => some ⟨.between, .openBrace :: tokens⟩
    | '\x7d' => some ⟨.between, .closeBrace :: tokens⟩
    | '[' => some ⟨.between, .openBracket :: tokens⟩
    | ']' => some ⟨.between, .closeBracket :: tokens⟩
    | ':' => some ⟨.between, .colon :: tokens⟩
    | ',' => some ⟨.between, .comma :: tokens⟩
    | '"' => some ⟨.quoted [], tokens⟩
    | 'n' => some ⟨.word ['u', 'l', 'l'] .null, tokens⟩
    | 't' => some ⟨.word ['r', 'u', 'e'] (.boolean true), tokens⟩
    | 'f' => some ⟨.word ['a', 'l', 's', 'e'] (.boolean false), tokens⟩
    | _ => none

/-- The character that a letter after a backslash stands for. -/
def escaped? : Char → Option Char
  | '"' => some '"'
  | '\\' => some '\\'
  | '/' => some '/'
  | 'b' => some '\x08'
  | 'f' => some '\x0c'
  | 'n' => some '\n'
  | 'r' => some '\r'
  | 't' => some '\t'
  | _ => none

def advance (scanner : Scanner) (character : Char) : Option Scanner :=
  match scanner.mode with
  | .between => start scanner.tokens character
  | .word (awaited :: rest) token =>
    if character = awaited then
      if rest.isEmpty then some ⟨.between, token :: scanner.tokens⟩
      else some ⟨.word rest token, scanner.tokens⟩
    else
      none
  | .word [] _ => none
  | .numeral read =>
    if isNumeral character then some ⟨.numeral (character :: read), scanner.tokens⟩
    else do
      let number ← Number.ofLiteral? read.reverse
      start (.number number :: scanner.tokens) character
  | .quoted read =>
    if character = '"' then some ⟨.between, ofQuoted read :: scanner.tokens⟩
    else if character = '\\' then some ⟨.escape read, scanner.tokens⟩
    else if character.toNat < 0x20 then none
    else some ⟨.quoted (.character character :: read), scanner.tokens⟩
  | .escape read =>
    if character = 'u' then some ⟨.unit read 0 4, scanner.tokens⟩
    else
      (escaped? character).map fun value =>
        ⟨.quoted (.character value :: read), scanner.tokens⟩
  | .unit read value awaited => do
    let digit ← Text.hexDigit? character
    let value := value * 16 + digit
    if awaited ≤ 1 then some ⟨.quoted (.unit value :: read), scanner.tokens⟩
    else some ⟨.unit read value (awaited - 1), scanner.tokens⟩

/-- The tokens of a text that has been read to its end. -/
def finish (scanner : Scanner) : Option (List Token) :=
  match scanner.mode with
  | .between => some scanner.tokens.reverse
  | .numeral read => do
    let number ← Number.ofLiteral? read.reverse
    some (Token.number number :: scanner.tokens).reverse
  | _ => none

/-- The tokens of a text, if it consists of tokens and blanks. -/
def scan (characters : List Char) : Option (List Token) := do
  finish (← characters.foldlM advance ⟨.between, []⟩)

end Token
end Json
end Tabulate
