import Tabulate.Text.Numeral

/-!
# Tokens of TOML text

A text is cut into words, dots, quoted texts, brackets, separators, blanks and line ends, one
character at a time.  Comments are dropped: each runs up to a line end, which stays.  Quoted texts
come out with their escapes resolved and their line ends written as a line feed.
-/

namespace Tabulate
namespace Toml

/-- A token of TOML text. -/
inductive Token where
  | lineEnd
  /-- Spaces and tabs. -/
  | blank (characters : List Char)
  /-- Letters, digits, signs, underscores and colons. -/
  | word (characters : List Char)
  | dot
  | equals
  | comma
  | openBracket
  | closeBracket
  | openBrace
  | closeBrace
  /-- A quoted text, and whether it was written over several lines. -/
  | quoted (multiline : Bool) (content : String)
  deriving DecidableEq

namespace Token

/-- The two kinds of quotes. -/
inductive Quote where
  /-- Double quotes, with escapes. -/
  | basic
  /-- Single quotes, without escapes. -/
  | literal
  deriving DecidableEq

/-- The character of a kind of quotes. -/
def Quote.mark : Quote → Char
  | basic => '"'
  | literal => '\''

/-- Where in a token the scanner stands.  Lists of characters read so far have the latest first. -/
inductive Mode where
  /-- Not inside a token. -/
  | between
  | blank (read : List Char)
  | word (read : List Char)
  | comment
  /-- After a carriage return, which must end a line. -/
  | carriage
  /-- After one quotation mark. -/
  | quote (kind : Quote)
  /-- After two quotation marks. -/
  | quotes (kind : Quote)
  /-- Inside a quoted text on one line. -/
  | line (kind : Quote) (read : List Char)
  /-- After the three marks that open a quoted text over several lines, when a first line end is
  dropped. -/
  | opened (kind : Quote)
  /-- After a carriage return at that point. -/
  | openedCarriage (kind : Quote)
  /-- Inside a quoted text over several lines, after some quotation marks in a row. -/
  | lines (kind : Quote) (read : List Char) (marks : Nat)
  /-- After a carriage return in a quoted text over several lines. -/
  | linesCarriage (kind : Quote) (read : List Char)
  /-- After a backslash. -/
  | escape (multiline : Bool) (read : List Char)
  /-- Inside the digits of an escaped code point. -/
  | code (multiline : Bool) (read : List Char) (value : Nat) (awaited : Nat)
  /-- After a backslash and blanks, when a line must end. -/
  | folding (read : List Char)
  /-- After a backslash at the end of a line, when blanks and line ends are skipped. -/
  | folded (read : List Char)
  /-- After a carriage return while blanks and line ends are skipped. -/
  | foldedCarriage (read : List Char)

/-- A scanner at work: where it stands, and the tokens completed so far, latest first. -/
structure Scanner where
  mode : Mode
  tokens : List Token

/-- Whether a character may occur in a word. -/
def isWord (character : Char) : Bool :=
  character.isAlphanum || character = '_' || character = '-' || character = '+' ||
    character = ':'

/-- Whether a character separates tokens on a line. -/
def isBlank (character : Char) : Bool :=
  character = ' ' || character = '\t'

/-- Whether a character may occur in a comment or a quoted text. -/
def isPlain (character : Char) : Bool :=
  character = '\t' || (0x20 ≤ character.toNat && character.toNat ≠ 0x7F)

/-- Read a character that starts a token. -/
def start (tokens : List Token) (character : Char) : Option Scanner :=
  if isWord character then some ⟨.word [character], tokens⟩
  else if isBlank character then some ⟨.blank [character], tokens⟩
  else match character with
    | '\n' => some ⟨.between, .lineEnd :: tokens⟩
    | '\r' => some ⟨.carriage, tokens⟩
    | '#' => some ⟨.comment, tokens⟩
    | '.' => some ⟨.between, .dot :: tokens⟩
    | '=' => some ⟨.between, .equals :: tokens⟩
    | ',' => some ⟨.between, .comma :: tokens⟩
    | '[' => some ⟨.between, .openBracket :: tokens⟩
    | ']' => some ⟨.between, .closeBracket :: tokens⟩
    | '\x7b' => some ⟨.between, .openBrace :: tokens⟩
    | '\x7d' => some ⟨.between, .closeBrace :: tokens⟩
    | '"' => some ⟨.quote .basic, tokens⟩
    | '\'' => some ⟨.quote .literal, tokens⟩
    | _ => none

/-- The token of a quoted text whose characters have been read, latest first. -/
def ofQuoted (multiline : Bool) (read : List Char) : Token :=
  .quoted multiline (String.ofList read.reverse)

/-- Read a character inside a quoted text on one line. -/
def readLine (kind : Quote) (read : List Char) (tokens : List Token) (character : Char) :
    Option Scanner :=
  if character = kind.mark then some ⟨.between, ofQuoted false read :: tokens⟩
  else if character = '\\' ∧ kind = .basic then some ⟨.escape false read, tokens⟩
  else if isPlain character then some ⟨.line kind (character :: read), tokens⟩
  else none

/-- Read a character other than a quotation mark inside a quoted text over several lines. -/
def readLines (kind : Quote) (read : List Char) (tokens : List Token) (character : Char) :
    Option Scanner :=
  if character = '\\' ∧ kind = .basic then some ⟨.escape true read, tokens⟩
  else if character = '\n' then some ⟨.lines kind ('\n' :: read) 0, tokens⟩
  else if character = '\r' then some ⟨.linesCarriage kind read, tokens⟩
  else if isPlain character then some ⟨.lines kind (character :: read) 0, tokens⟩
  else none

/-- The character that a letter after a backslash stands for. -/
def escaped? : Char → Option Char
  | '"' => some '"'
  | '\\' => some '\\'
  | 'b' => some '\x08'
  | 't' => some '\t'
  | 'n' => some '\n'
  | 'f' => some '\x0c'
  | 'r' => some '\r'
  | _ => none

/-- Go on in a quoted text with double quotes. -/
def resume (multiline : Bool) (read : List Char) : Mode :=
  if multiline then .lines .basic read 0 else .line .basic read

def advance (scanner : Scanner) (character : Char) : Option Scanner :=
  let tokens := scanner.tokens
  match scanner.mode with
  | .between => start tokens character
  | .blank read =>
    if isBlank character then some ⟨.blank (character :: read), tokens⟩
    else start (.blank read.reverse :: tokens) character
  | .word read =>
    if isWord character then some ⟨.word (character :: read), tokens⟩
    else start (.word read.reverse :: tokens) character
  | .comment =>
    if character = '\n' ∨ character = '\r' then start tokens character
    else if isPlain character then some ⟨.comment, tokens⟩
    else none
  | .carriage => if character = '\n' then some ⟨.between, .lineEnd :: tokens⟩ else none
  | .quote kind =>
    if character = kind.mark then some ⟨.quotes kind, tokens⟩
    else readLine kind [] tokens character
  | .quotes kind =>
    if character = kind.mark then some ⟨.opened kind, tokens⟩
    else start (ofQuoted false [] :: tokens) character
  | .line kind read => readLine kind read tokens character
  | .opened kind =>
    if character = '\n' then some ⟨.lines kind [] 0, tokens⟩
    else if character = '\r' then some ⟨.openedCarriage kind, tokens⟩
    else if character = kind.mark then some ⟨.lines kind [] 1, tokens⟩
    else readLines kind [] tokens character
  | .openedCarriage kind =>
    if character = '\n' then some ⟨.lines kind [] 0, tokens⟩ else none
  | .lines kind read marks =>
    if character = kind.mark then
      -- A fifth mark in a row must be the last of the three that close the text.
      if marks = 4 then
        some ⟨.between, ofQuoted true (kind.mark :: kind.mark :: read) :: tokens⟩
      else some ⟨.lines kind read (marks + 1), tokens⟩
    else if marks < 3 then
      readLines kind (List.replicate marks kind.mark ++ read) tokens character
    else
      start (ofQuoted true (List.replicate (marks - 3) kind.mark ++ read) :: tokens) character
  | .linesCarriage kind read =>
    if character = '\n' then some ⟨.lines kind ('\n' :: read) 0, tokens⟩ else none
  | .escape multiline read =>
    if character = 'u' then some ⟨.code multiline read 0 4, tokens⟩
    else if character = 'U' then some ⟨.code multiline read 0 8, tokens⟩
    else if multiline ∧ character = '\n' then some ⟨.folded read, tokens⟩
    else if multiline ∧ character = '\r' then some ⟨.foldedCarriage read, tokens⟩
    else if multiline ∧ isBlank character then some ⟨.folding read, tokens⟩
    else (escaped? character).map fun value => ⟨resume multiline (value :: read), tokens⟩
  | .code multiline read value awaited => do
    let digit ← Text.hexDigit? character
    let value := value * 16 + digit
    if awaited ≤ 1 then
      if value.isValidChar then
        some ⟨resume multiline (Char.ofNat value :: read), tokens⟩
      else
        none
    else
      some ⟨.code multiline read value (awaited - 1), tokens⟩
  | .folding read =>
    if isBlank character then some ⟨.folding read, tokens⟩
    else if character = '\n' then some ⟨.folded read, tokens⟩
    else if character = '\r' then some ⟨.foldedCarriage read, tokens⟩
    else none
  | .folded read =>
    if isBlank character ∨ character = '\n' then some ⟨.folded read, tokens⟩
    else if character = '\r' then some ⟨.foldedCarriage read, tokens⟩
    else if character = '"' then some ⟨.lines .basic read 1, tokens⟩
    else readLines .basic read tokens character
  | .foldedCarriage read =>
    if character = '\n' then some ⟨.folded read, tokens⟩ else none

/-- The tokens of a text that has been read to its end. -/
def finish (scanner : Scanner) : Option (List Token) :=
  let tokens := scanner.tokens
  match scanner.mode with
  | .between => some tokens.reverse
  | .comment => some tokens.reverse
  | .blank read => some (Token.blank read.reverse :: tokens).reverse
  | .word read => some (Token.word read.reverse :: tokens).reverse
  | .quotes _ => some (ofQuoted false [] :: tokens).reverse
  | .lines kind read marks =>
    if marks < 3 then none
    else some (ofQuoted true (List.replicate (marks - 3) kind.mark ++ read) :: tokens).reverse
  | _ => none

/-- The text without a byte order mark at its start. -/
def withoutMark : List Char → List Char
  | '\ufeff' :: rest => rest
  | characters => characters

def scan (characters : List Char) : Option (List Token) := do
  finish (← (withoutMark characters).foldlM advance ⟨.between, []⟩)

end Token
end Toml
end Tabulate
