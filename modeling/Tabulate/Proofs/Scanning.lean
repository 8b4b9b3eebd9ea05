import Mathlib.Data.List.Forall2
import Mathlib.Data.List.TakeWhile
import Tabulate.Json.Printer
import Tabulate.Json.Token

/-!
# Tokens of printed values

A value has tokens, and the scanner finds them in the characters that the printer writes.  Which
further characters a printer chooses to escape makes no difference, as long as they lie in the basic
plane.  A number ends only where the next token starts, so what the scanner has completed is stated
up to a number at its end.
-/

namespace Tabulate
namespace Json

mutual

/-- The tokens that write a value. -/
def tokens : Json → List Token
  | .null => [.null]
  | .boolean truth => [.boolean truth]
  | .number written => [.number written]
  | .text content => [.text (some content)]
  | .array elements => .openBracket :: elementTokens elements
  | .object members => .openBrace :: memberTokens members

/-- The tokens of the elements of an array up to the closing bracket. -/
def elementTokens : List Json → List Token
  | [] => [.closeBracket]
  | [element] => element.tokens ++ [.closeBracket]
  | element :: elements => element.tokens ++ .comma :: elementTokens elements

/-- The tokens of the members of an object up to the closing brace. -/
def memberTokens : List (String × Json) → List Token
  | [] => [.closeBrace]
  | [(name, value)] => .text (some name) :: .colon :: value.tokens ++ [.closeBrace]
  | (name, value) :: members =>
    .text (some name) :: .colon :: value.tokens ++ .comma :: memberTokens members

end

mutual

/-- Whether all numbers in a value are naturals that fit in 64 bits. -/
def IsPlain : Json → Prop
  | .number (.natural value) => value < Number.significandBound
  | .number (.literal _) => False
  | .array elements => ArePlain elements
  | .object members => HavePlainValues members
  | _ => True

/-- Whether all elements of an array are plain. -/
def ArePlain : List Json → Prop
  | [] => True
  | element :: elements => element.IsPlain ∧ ArePlain elements

/-- Whether all members of an object have plain values. -/
def HavePlainValues : List (String × Json) → Prop
  | [] => True
  | (_, value) :: members => value.IsPlain ∧ HavePlainValues members

end

/-! ## Numbers -/

namespace Number

/-- A positive number is written without a leading zero. -/
theorem exists_digits_eq_cons {value : Nat} (positive : 0 < value) :
    ∃ first rest, Text.digits value = first :: rest ∧ first ≠ '0' := by
  induction value using Nat.strongRecOn with
  | ind value ih =>
      by_cases small : value < 10
      · refine ⟨value.digitChar, [], Nat.toDigits_of_lt_base small, ?_⟩
        rw [ne_eq, Nat.digitChar_eq_zero]
        omega
      · obtain ⟨first, rest, digits_eq, nonzero⟩ := ih (value / 10) (by omega) (by omega)
        refine ⟨first, rest ++ [Nat.digitChar (value % 10)], ?_, nonzero⟩
        rw [Text.digits] at digits_eq
        rw [Text.digits, Nat.toDigits_of_base_le (by decide) (by omega), digits_eq,
          List.cons_append]

theorem all_isDigit_digits (value : Nat) : (Text.digits value).all Char.isDigit = true :=
  List.all_eq_true.mpr fun _ => Text.isDigit_of_mem_digits

theorem isWhole_digits (value : Nat) : isWhole (Text.digits value) = true := by
  rcases Nat.eq_zero_or_pos value with rfl | positive
  · rfl
  · obtain ⟨first, rest, digits_eq, nonzero⟩ := exists_digits_eq_cons positive
    have digits_all := all_isDigit_digits value
    rw [digits_eq] at digits_all ⊢
    rw [isWhole.eq_def]
    split
    next empty => cases empty
    next same =>
      obtain ⟨rfl, -⟩ := List.cons.inj same
      exact absurd rfl nonzero
    next => exact digits_all

theorem unsigned_of_isDigit {characters : List Char} (digits : characters.all Char.isDigit = true) :
    unsigned characters = characters := by
  rw [unsigned.eq_def]
  split
  · cases digits
  · rfl

/-- A natural number is read from its digits. -/
theorem ofLiteral?_digits (value : Nat) :
    ofLiteral? (Text.digits value) = some (.natural value) := by
  have digits := all_isDigit_digits value
  have whole : (Text.digits value).takeWhile Char.isDigit = Text.digits value :=
    List.takeWhile_eq_self_iff.mpr fun _ => Text.isDigit_of_mem_digits
  have rest : (Text.digits value).dropWhile Char.isDigit = [] :=
    List.dropWhile_eq_nil_iff.mpr fun _ => Text.isDigit_of_mem_digits
  have parts_eq : parts? (Text.digits value) = some ⟨Text.digits value, [], 0⟩ := by
    simp [parts?, unsigned_of_isDigit digits, whole, rest, tail?, exponent?, isWhole_digits]
  rw [ofLiteral?, parts_eq, Option.map_some, if_pos digits, Text.ofDigits_digits]

end Number

namespace Token

open Scanner

/-- What a scanner has completed, the latest token first: a number at the end counts as well. -/
inductive Completed : Scanner → List Token → Prop
  | between (tokens : List Token) : Completed ⟨.between, tokens⟩ tokens
  | numeral {read : List Char} {number : Number} (tokens : List Token)
      (written : Number.ofLiteral? read.reverse = some number) :
      Completed ⟨.numeral read, tokens⟩ (.number number :: tokens)

/-- A character that cannot extend a number starts anew behind what is completed. -/
theorem Completed.advance {scanner : Scanner} {tokens : List Token} {character : Char}
    (completed : Completed scanner tokens) (other : isNumeral character = false) :
    advance scanner character = start tokens character := by
  cases completed with
  | between => rfl
  | numeral before written => simp [Token.advance, other, written]

/-- A separator behind completed tokens is read as if it stood between tokens. -/
theorem Completed.foldlM_append {first scanner next : Scanner} {tokens : List Token}
    {characters rest : List Char} {separator : Char} (completed : Completed scanner tokens)
    (run : characters.foldlM Token.advance first = some scanner)
    (other : isNumeral separator = false) (started : start tokens separator = some next) :
    (characters ++ separator :: rest).foldlM Token.advance first =
      rest.foldlM Token.advance next := by
  rw [List.foldlM_append, run, Option.bind_eq_bind, Option.bind_some, List.foldlM_cons,
    completed.advance other, started, Option.bind_eq_bind, Option.bind_some]

theorem Completed.finish {scanner : Scanner} {tokens : List Token}
    (completed : Completed scanner tokens) : finish scanner = some tokens.reverse := by
  cases completed with
  | between => rfl
  | numeral before written => simp [Token.finish, written]

theorem isNumeral_of_isDigit {character : Char} (digit : character.isDigit = true) :
    isNumeral character = true := by
  simp [isNumeral, digit]

theorem isSpace_of_isDigit {character : Char} (digit : character.isDigit = true) :
    isSpace character = false := by
  rw [isSpace]
  simp only [Bool.or_eq_false_iff, decide_eq_false_iff_not]
  refine ⟨⟨⟨?_, ?_⟩, ?_⟩, ?_⟩
  all_goals
    rintro rfl
    cases digit

/-- Characters of a number are collected. -/
theorem foldlM_numeral {characters : List Char} (digits : characters.all Char.isDigit = true)
    (read : List Char) (tokens : List Token) :
    characters.foldlM advance ⟨.numeral read, tokens⟩ =
      some ⟨.numeral (characters.reverse ++ read), tokens⟩ := by
  induction characters generalizing read with
  | nil => rfl
  | cons character characters ih =>
      obtain ⟨digit, digits⟩ := Bool.and_eq_true_iff.mp digits
      have step : advance ⟨.numeral read, tokens⟩ character =
          some ⟨.numeral (character :: read), tokens⟩ := by
        simp [advance, isNumeral_of_isDigit digit]
      rw [List.foldlM_cons, step, Option.bind_eq_bind, Option.bind_some, ih digits]
      simp

/-- Printing a natural number starts and does not end a number. -/
theorem completed_digits (value : Nat) (tokens : List Token) :
    ∃ scanner, (Text.digits value).foldlM advance ⟨.between, tokens⟩ = some scanner ∧
      Completed scanner (.number (.natural value) :: tokens) := by
  have digits := Number.all_isDigit_digits value
  have written := Number.ofLiteral?_digits value
  cases shown : Text.digits value with
  | nil => exact absurd shown Nat.toDigits_ne_nil
  | cons first rest =>
      rw [shown] at digits written
      obtain ⟨digit, digits⟩ := Bool.and_eq_true_iff.mp digits
      have step : advance ⟨.between, tokens⟩ first = some ⟨.numeral [first], tokens⟩ := by
        simp [advance, start, isSpace_of_isDigit digit, isNumeral_of_isDigit digit]
      refine ⟨⟨.numeral (rest.reverse ++ [first]), tokens⟩, ?_, .numeral tokens ?_⟩
      · rw [List.foldlM_cons, step, Option.bind_eq_bind, Option.bind_some, foldlM_numeral digits]
      · simpa using written

/-! ## Quoted texts -/

/-- A character is no half of a surrogate pair. -/
theorem not_surrogate (character : Char) :
    isLead character.toNat = false ∧ isTrail character.toNat = false := by
  have valid : character.toNat < 0xD800 ∨ 0xDFFF < character.toNat ∧ character.toNat < 0x110000 :=
    character.valid
  simp only [isLead, isTrail, Bool.and_eq_false_iff, decide_eq_false_iff_not]
  omega

/-- Whether a choice of further characters to escape stays in the basic plane. -/
def IsBasic (chosen : Char → Bool) : Prop :=
  ∀ character, chosen character = true → character.toNat < 0x10000

/-- A piece of a quoted text stands for a character as it is or by its code unit. -/
inductive Piece.Writes : Piece → Char → Prop
  | character (value : Char) : Writes (.character value) value
  | unit (value : Char) : Writes (.unit value.toNat) value

/-- A code unit that is no half of a pair stands for itself. -/
theorem joinOnto?_unit (found : List Char) (value : Char) (earlier : List Piece) :
    joinOnto? found (.unit value.toNat :: earlier) = joinOnto? (value :: found) earlier := by
  obtain ⟨lead, trail⟩ := not_surrogate value
  cases earlier with
  | nil => simp [joinOnto?, lead, trail]
  | cons piece earlier =>
      cases piece with
      | character other => simp [joinOnto?, lead, trail]
      | unit other => simp [joinOnto?, lead, trail]

theorem joinOnto?_of_writes {pieces : List Piece} {characters : List Char}
    (writes : List.Forall₂ Piece.Writes pieces characters) (found : List Char) :
    joinOnto? found pieces = some (characters.reverse ++ found) := by
  induction writes generalizing found with
  | nil => rfl
  | cons head tail ih =>
      cases head with
      | character value => simp [joinOnto?, ih]
      | unit value => simp [joinOnto?_unit, ih]

theorem hexDigit?_digitChar {value : Nat} (small : value < 16) :
    Text.hexDigit? value.digitChar = some value := by
  have all : ∀ value < 16, Text.hexDigit? (Nat.digitChar value) = some value := by decide
  exact all value small

/-- Four digits write a code unit. -/
theorem foldlM_unitDigits {value : Nat} (small : value < 0x10000) (read : List Piece)
    (tokens : List Token) :
    (unitDigits value).foldlM advance ⟨.unit read 0 4, tokens⟩ =
      some ⟨.quoted (.unit value :: read), tokens⟩ := by
  have value_eq : ((value / 0x1000 % 16 * 16 + value / 0x100 % 16) * 16 + value / 0x10 % 16) * 16 +
      value % 16 = value := by
    omega
  have digit : ∀ number, Text.hexDigit? (number % 16).digitChar = some (number % 16) :=
    fun number => hexDigit?_digitChar (Nat.mod_lt number (by decide))
  simp [unitDigits, advance, digit, value_eq]

/-- The escaped form of a character is read as one piece that stands for it. -/
theorem exists_piece_of_escape {chosen : Char → Bool} (basic : IsBasic chosen) (character : Char)
    (read : List Piece) (tokens : List Token) :
    ∃ piece, (escape chosen character).foldlM advance ⟨.quoted read, tokens⟩ =
        some ⟨.quoted (piece :: read), tokens⟩ ∧
      piece.Writes character := by
  rw [escape.eq_def]
  split
  case h_8 _ quote backslash _ _ _ _ _ =>
    split_ifs with marked
    · have small : character.toNat < 0x10000 := by
        rcases Bool.or_eq_true_iff.mp marked with control | asked
        · have := of_decide_eq_true control
          omega
        · exact basic character asked
      refine ⟨.unit character.toNat, ?_, .unit character⟩
      exact foldlM_unitDigits small read tokens
    · obtain ⟨control, -⟩ : ¬character.toNat < 0x20 ∧ _ := by simpa using marked
      have unquoted : character ≠ '"' := quote
      have unescaped : character ≠ '\\' := backslash
      refine ⟨.character character, ?_, .character character⟩
      simp [advance, control, unquoted, unescaped]
  -- The letters after a backslash stand for the characters that have an escape of their own.
  all_goals exact ⟨_, rfl, .character _⟩

variable {chosen : Char → Bool}

theorem exists_pieces_of_escape (basic : IsBasic chosen) (characters : List Char)
    (read : List Piece) (tokens : List Token) :
    ∃ pieces, (characters.flatMap (escape chosen)).foldlM advance ⟨.quoted read, tokens⟩ =
        some ⟨.quoted (pieces ++ read), tokens⟩ ∧
      List.Forall₂ Piece.Writes pieces characters.reverse := by
  induction characters generalizing read with
  | nil => exact ⟨[], rfl, .nil⟩
  | cons character characters ih =>
      obtain ⟨piece, head, writes⟩ := exists_piece_of_escape basic character read tokens
      obtain ⟨pieces, tail, related⟩ := ih (piece :: read)
      refine ⟨pieces ++ [piece], ?_, ?_⟩
      · rw [List.flatMap_cons, List.foldlM_append, head, Option.bind_eq_bind, Option.bind_some,
          tail]
        simp
      · rw [List.reverse_cons]
        exact List.rel_append related (.cons writes .nil)

/-- A quoted text is one token that has the text as its content. -/
theorem foldlM_quote (basic : IsBasic chosen) (content : String) (tokens : List Token) :
    (quote chosen content).foldlM advance ⟨.between, tokens⟩ =
      some ⟨.between, .text (some content) :: tokens⟩ := by
  obtain ⟨pieces, run, writes⟩ := exists_pieces_of_escape basic content.toList [] tokens
  have open_eq : advance ⟨.between, tokens⟩ '"' = some ⟨.quoted [], tokens⟩ := rfl
  have close_eq : advance ⟨.quoted pieces, tokens⟩ '"' =
      some ⟨.between, ofQuoted pieces :: tokens⟩ := rfl
  have content_eq : ofQuoted pieces = .text (some content) := by
    rw [ofQuoted, joinOnto?_of_writes writes]
    simp
  rw [quote, List.cons_append, List.foldlM_cons, open_eq, Option.bind_eq_bind, Option.bind_some,
    List.foldlM_append, run]
  simp [close_eq, content_eq]

/-- The name of a member is read with the colon behind it. -/
theorem foldlM_name (basic : IsBasic chosen) (name : String) (rest : List Char)
    (tokens : List Token) :
    (quote chosen name ++ ':' :: rest).foldlM advance ⟨.between, tokens⟩ =
      rest.foldlM advance ⟨.between, .colon :: .text (some name) :: tokens⟩ :=
  (Completed.between _).foldlM_append (foldlM_quote basic name tokens) rfl rfl

mutual

/-- The characters of a printed value complete its tokens. -/
theorem completed_print (basic : IsBasic chosen) (json : Json) (plain : json.IsPlain)
    (tokens : List Token) :
    ∃ scanner, (json.print chosen).foldlM advance ⟨.between, tokens⟩ = some scanner ∧
      Completed scanner (json.tokens.reverse ++ tokens) := by
  cases json with
  | null => exact ⟨_, rfl, .between _⟩
  | boolean truth =>
      cases truth with
      | true => exact ⟨_, rfl, .between _⟩
      | false => exact ⟨_, rfl, .between _⟩
  | number written =>
      cases written with
      | natural value => exact completed_digits value tokens
      | literal characters => exact plain.elim
  | text content => exact ⟨_, foldlM_quote basic content tokens, .between _⟩
  | array elements =>
      refine ⟨_, foldlM_printElements basic elements plain (.openBracket :: tokens), ?_⟩
      rw [Json.tokens, List.reverse_cons, List.append_assoc]
      exact .between _
  | object members =>
      refine ⟨_, foldlM_printMembers basic members plain (.openBrace :: tokens), ?_⟩
      rw [Json.tokens, List.reverse_cons, List.append_assoc]
      exact .between _

/-- The characters of the elements of an array complete their tokens. -/
theorem foldlM_printElements (basic : IsBasic chosen) (elements : List Json)
    (plain : ArePlain elements) (tokens : List Token) :
    (printElements chosen elements).foldlM advance ⟨.between, tokens⟩ =
      some ⟨.between, (elementTokens elements).reverse ++ tokens⟩ := by
  match elements with
  | [] => rfl
  | [element] =>
      obtain ⟨scanner, run, completed⟩ := completed_print basic element plain.1 tokens
      rw [printElements, completed.foldlM_append run rfl rfl]
      simp [elementTokens]
  | element :: next :: elements =>
      obtain ⟨scanner, run, completed⟩ := completed_print basic element plain.1 tokens
      have rest := foldlM_printElements basic (next :: elements) plain.2
        (.comma :: (element.tokens.reverse ++ tokens))
      rw [printElements, completed.foldlM_append run rfl rfl, rest]
      · simp [elementTokens]
      · nofun

/-- The characters of the members of an object complete their tokens. -/
theorem foldlM_printMembers (basic : IsBasic chosen) (members : List (String × Json))
    (plain : HavePlainValues members) (tokens : List Token) :
    (printMembers chosen members).foldlM advance ⟨.between, tokens⟩ =
      some ⟨.between, (memberTokens members).reverse ++ tokens⟩ := by
  match members with
  | [] => rfl
  | [(name, value)] =>
      obtain ⟨scanner, run, completed⟩ :=
        completed_print basic value plain.1 (.colon :: .text (some name) :: tokens)
      rw [printMembers, List.append_assoc, List.cons_append, foldlM_name basic,
        completed.foldlM_append run rfl rfl]
      simp [memberTokens]
  | (name, value) :: next :: members =>
      obtain ⟨scanner, run, completed⟩ :=
        completed_print basic value plain.1 (.colon :: .text (some name) :: tokens)
      have rest := foldlM_printMembers basic (next :: members) plain.2
        (.comma :: (value.tokens.reverse ++ .colon :: .text (some name) :: tokens))
      rw [printMembers, List.append_assoc, List.cons_append, foldlM_name basic,
        completed.foldlM_append run rfl rfl, rest]
      · simp [memberTokens]
      · nofun

end

/-- The scanner finds the tokens of a printed value. -/
theorem scan_print (basic : IsBasic chosen) (json : Json) (plain : json.IsPlain) :
    scan (json.print chosen) = some json.tokens := by
  obtain ⟨scanner, run, completed⟩ := completed_print basic json plain []
  rw [scan, run, Option.bind_eq_bind, Option.bind_some, completed.finish, List.append_nil,
    List.reverse_reverse]

end Token
end Json
end Tabulate
