import Tabulate.Json.Outline
import Tabulate.Proofs.Scanning

/-!
# Drafts of values

The tokens of a value make up its draft, and the draft is read as the value again if the limit
leaves room for all containers inside each other.  Beyond that room nothing is read.
-/

namespace Tabulate

/-! ## Numbers in range -/

namespace Double

/-- Rounding does not more than double a number. -/
theorem nearest_le_two_mul (value : Nat) : nearest value ≤ 2 * value := by
  by_cases small : value < Nat.pow 2 significantBits
  · rw [nearest_of_lt small]
    omega
  · have positive : value ≠ 0 := by
      rintro rfl
      exact small (by decide)
    have unit_le : Nat.pow 2 (value.log2 + 1 - significantBits) ≤ value :=
      calc
        Nat.pow 2 (value.log2 + 1 - significantBits) ≤ 2 ^ value.log2 :=
          Nat.pow_le_pow_right (by decide) (by rw [significantBits]; omega)
        _ ≤ value := Nat.log2_self_le positive
    have units_le := Nat.div_mul_le_self value (Nat.pow 2 (value.log2 + 1 - significantBits))
    simp only [nearest]
    split_ifs
    · rw [Nat.add_mul]
      omega
    · omega

/-- Numbers of 64 bits are far from the bound. -/
theorem productOverflows_zero {significand : Nat} (small : significand < Nat.pow 2 64) :
    productOverflows significand 0 = false := by
  have nearest_le := nearest_le_two_mul significand
  have one_eq : nearest (Nat.pow 10 (0 : Int).toNat) = 1 := nearest_of_lt (by decide)
  have bound_lt : 2 * Nat.pow 2 64 ≤ bound := by decide +kernel
  rw [productOverflows, one_eq]
  split_ifs with zero great
  · rfl
  · exact absurd great (by decide)
  · rw [decide_eq_false_iff_not]
    omega

end Double

namespace Json
namespace Number

/-- All digits of a number below the bound count. -/
theorem append_of_lt {digits : List Char} {value : Nat}
    (small : Nat.ofDigitChars 10 digits value < significandBound) :
    append value digits = (Nat.ofDigitChars 10 digits value, 0) := by
  induction digits generalizing value with
  | nil => simp [append]
  | cons digit digits ih =>
      have longer_eq :
          value * 10 + Text.ofDigits [digit] = 10 * value + (digit.toNat - '0'.toNat) := by
        rw [Text.ofDigits, Nat.ofDigitChars_cons, Nat.ofDigitChars_nil]
        omega
      rw [Nat.ofDigitChars_cons] at small ⊢
      have longer_lt : 10 * value + (digit.toNat - '0'.toNat) < significandBound := by
        rw [Nat.ofDigitChars_eq_ofDigitChars_zero] at small
        have power_pos : 0 < 10 ^ digits.length := Nat.pow_pos (by decide)
        have := Nat.le_mul_of_pos_left (10 * value + (digit.toNat - '0'.toNat)) power_pos
        omega
      rw [append, longer_eq, if_pos longer_lt, ih small]

/-- A natural number of 64 bits is read. -/
theorem isReadable_natural {value : Nat} (small : value < significandBound) :
    isReadable (.natural value) = true := by
  have digits_eq := Text.ofDigits_digits value
  rw [Text.ofDigits] at digits_eq
  have append_eq : append 0 (Text.digits value) = (value, 0) := by
    rw [append_of_lt (by rwa [digits_eq]), digits_eq]
  have inside := Double.productOverflows_zero small
  simpa [isReadable, Parts.isTooGreat, append_eq, append] using inside

end Number

/-! ## Drafts -/

mutual

/-- The draft of a value, all of it with content. -/
def draft : Json → Draft
  | .null => .null
  | .boolean truth => .boolean truth
  | .number written => .number written
  | .text content => .text (some content)
  | .array elements => .array (elementDrafts elements)
  | .object members => .object (memberDrafts members)

/-- The drafts of the elements of an array. -/
def elementDrafts : List Json → List Draft
  | [] => []
  | element :: elements => element.draft :: elementDrafts elements

/-- The drafts of the members of an object. -/
def memberDrafts : List (String × Json) → List (Option String × Draft)
  | [] => []
  | (name, value) :: members => (some name, value.draft) :: memberDrafts members

end

namespace Draft.Assembly

/-- Behind a complete value, the next token is followed. -/
theorem foldlM_append_of_complete {tokens rest : List Token} {token : Token} {draft : Draft}
    {stack : List Frame} {first next : Assembly}
    (run : tokens.foldlM advance first = some (.complete draft stack))
    (followed : follow draft stack token = some next) :
    (tokens ++ token :: rest).foldlM advance first = rest.foldlM advance next := by
  rw [List.foldlM_append, run, Option.bind_eq_bind, Option.bind_some, List.foldlM_cons, advance,
    followed, Option.bind_eq_bind, Option.bind_some]

/-- Behind an opening bracket, an element is read as behind a comma. -/
theorem foldlM_arrayStart (element : Json) (elements : List Json) (stack : List Frame) :
    (elementTokens (element :: elements)).foldlM advance (.arrayStart stack) =
      (elementTokens (element :: elements)).foldlM advance (.awaitValue (.array [] :: stack)) := by
  have same : ∀ rest, (element.tokens ++ rest).foldlM advance (.arrayStart stack) =
      (element.tokens ++ rest).foldlM advance (.awaitValue (.array [] :: stack)) := by
    intro rest
    cases element <;> simp [tokens, advance]
  cases elements with
  | nil => exact same [.closeBracket]
  | cons next elements => exact same (.comma :: elementTokens (next :: elements))

/-- Behind an opening brace, a member is read as behind a comma. -/
theorem foldlM_objectStart (member : String × Json) (members : List (String × Json))
    (stack : List Frame) :
    (memberTokens (member :: members)).foldlM advance (.objectStart stack) =
      (memberTokens (member :: members)).foldlM advance (.awaitName [] stack) := by
  cases members with
  | nil => rfl
  | cons next members => rfl

/-- The name of a member and its colon leave its value to be read. -/
theorem foldlM_name (name : String) (tokens : List Token) (read : List (Option String × Draft))
    (stack : List Frame) :
    (.text (some name) :: .colon :: tokens).foldlM advance (.awaitName read stack) =
      tokens.foldlM advance (.awaitValue (.object read (some name) :: stack)) := rfl

mutual

/-- The tokens of a value complete its draft. -/
theorem foldlM_tokens (json : Json) (stack : List Frame) :
    json.tokens.foldlM advance (.awaitValue stack) = some (.complete json.draft stack) := by
  match json with
  | .null => rfl
  | .boolean truth => rfl
  | .number written => rfl
  | .text content => rfl
  | .array [] => rfl
  | .array (element :: elements) =>
      have run := foldlM_elementTokens (element :: elements) (List.cons_ne_nil _ _) [] stack
      rw [← foldlM_arrayStart] at run
      exact run
  | .object [] => rfl
  | .object (member :: members) =>
      have run := foldlM_memberTokens (member :: members) (List.cons_ne_nil _ _) [] stack
      rw [← foldlM_objectStart] at run
      exact run

/-- The tokens of the elements of an array complete its draft. -/
theorem foldlM_elementTokens (elements : List Json) (nonempty : elements ≠ []) (read : List Draft)
    (stack : List Frame) :
    (elementTokens elements).foldlM advance (.awaitValue (.array read :: stack)) =
      some (.complete (.array (read.reverse ++ elementDrafts elements)) stack) := by
  match elements with
  | [] => exact absurd rfl nonempty
  | [element] =>
      rw [elementTokens, foldlM_append_of_complete (foldlM_tokens element _) rfl]
      simp [elementDrafts]
  | element :: next :: elements =>
      have rest := foldlM_elementTokens (next :: elements) (List.cons_ne_nil _ _)
        (element.draft :: read) stack
      rw [elementTokens, foldlM_append_of_complete (foldlM_tokens element _) rfl, rest]
      · simp [elementDrafts]
      · nofun

/-- The tokens of the members of an object complete its draft. -/
theorem foldlM_memberTokens (members : List (String × Json)) (nonempty : members ≠ [])
    (read : List (Option String × Draft)) (stack : List Frame) :
    (memberTokens members).foldlM advance (.awaitName read stack) =
      some (.complete (.object (read.reverse ++ memberDrafts members)) stack) := by
  match members with
  | [] => exact absurd rfl nonempty
  | [(name, value)] =>
      rw [memberTokens, List.cons_append, List.cons_append, foldlM_name,
        foldlM_append_of_complete (foldlM_tokens value _) rfl]
      simp [memberDrafts]
  | (name, value) :: next :: members =>
      have rest := foldlM_memberTokens (next :: members) (List.cons_ne_nil _ _)
        ((some name, value.draft) :: read) stack
      rw [memberTokens, List.cons_append, List.cons_append, foldlM_name,
        foldlM_append_of_complete (foldlM_tokens value _) rfl, rest]
      · simp [memberDrafts]
      · nofun

end

end Draft.Assembly

/-- The draft of a value is read from its tokens. -/
theorem Draft.ofTokens?_tokens (json : Json) : ofTokens? json.tokens = some json.draft := by
  rw [ofTokens?, Assembly.foldlM_tokens, Option.bind_eq_bind, Option.bind_some]
  rfl

/-! ## Reading drafts -/

mutual

/-- How many containers are inside each other in a value. -/
def depth : Json → Nat
  | .array elements => elementsDepth elements + 1
  | .object members => membersDepth members + 1
  | _ => 0

/-- The greatest depth of the elements of an array. -/
def elementsDepth : List Json → Nat
  | [] => 0
  | element :: elements => max element.depth (elementsDepth elements)

/-- The greatest depth of the values of the members of an object. -/
def membersDepth : List (String × Json) → Nat
  | [] => 0
  | (_, value) :: members => max value.depth (membersDepth members)

end

namespace Draft

mutual

/-- A draft is read exactly if there is room for the containers in it. -/
theorem read?_draft (json : Json) (plain : json.IsPlain) (room : Nat) :
    json.draft.read? .whole room = if json.depth ≤ room then some json else none := by
  match json, room with
  | .null, room => simp [draft, read?, depth]
  | .boolean truth, room => simp [draft, read?, depth]
  | .number (.natural value), room =>
      simp [draft, read?, depth, Number.isReadable_natural plain]
  | .number (.literal characters), room => exact plain.elim
  | .text content, room => simp [draft, read?, depth]
  | .array elements, 0 => simp [draft, read?, depth]
  | .array elements, room + 1 =>
      simp only [draft, read?, depth, Nat.add_le_add_iff_right,
        readElements_elementDrafts elements plain room 0]
      split_ifs <;> rfl
  | .object members, 0 => simp [draft, read?, depth]
  | .object members, room + 1 =>
      simp only [draft, read?, depth, Nat.add_le_add_iff_right,
        readMembers_memberDrafts members plain room]
      split_ifs <;> rfl

theorem readElements_elementDrafts (elements : List Json) (plain : ArePlain elements)
    (room place : Nat) :
    readElements .whole room place (elementDrafts elements) =
      if elementsDepth elements ≤ room then some elements else none := by
  match elements with
  | [] => simp [elementDrafts, readElements, elementsDepth]
  | element :: elements =>
      have head := read?_draft element plain.1 room
      have tail := readElements_elementDrafts elements plain.2 room (place + 1)
      simp only [elementDrafts, readElements, Outline.element, head, tail, elementsDepth,
        Nat.max_le]
      split_ifs <;> simp_all

theorem readMembers_memberDrafts (members : List (String × Json))
    (plain : HavePlainValues members) (room : Nat) :
    readMembers .whole room (memberDrafts members) =
      if membersDepth members ≤ room then some members else none := by
  match members with
  | [] => simp [memberDrafts, readMembers, membersDepth]
  | (name, value) :: members =>
      have head := read?_draft value plain.1 room
      have tail := readMembers_memberDrafts members plain.2 room
      simp only [memberDrafts, readMembers, Outline.member?, head, tail, membersDepth, Nat.max_le]
      split_ifs <;> simp_all

end

end Draft
end Json
end Tabulate
