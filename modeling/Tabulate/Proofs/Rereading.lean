import Tabulate.Proofs.Drafting
import Tabulate.Proofs.Encoding

/-!
# Values as text

What is written as text is read back.  Shapes nest no deeper than their types and always fit into
the limit.  Expressions nest as deeply as they are high, inside the one array that lists them, and
they are read back exactly if they fit.
-/

namespace Tabulate

/-! ## Texts of values -/

namespace Json

theorem arePlain_iff {elements : List Json} :
    ArePlain elements ↔ ∀ element ∈ elements, element.IsPlain := by
  induction elements with
  | nil => simp [ArePlain]
  | cons element elements ih => simp [ArePlain, ih]

theorem elementsDepth_le_iff {elements : List Json} {bound : Nat} :
    elementsDepth elements ≤ bound ↔ ∀ element ∈ elements, element.depth ≤ bound := by
  induction elements with
  | nil => simp [elementsDepth]
  | cons element elements ih => rw [elementsDepth, Nat.max_le, ih, List.forall_mem_cons]

theorem isPlain_byte (value : UInt8) : (byte value).IsPlain := by
  have small := value.toNat_lt
  have bound_eq : Number.significandBound = 18446744073709551616 := rfl
  rw [byte, natural, IsPlain, bound_eq]
  omega

/-- The draft of a value is read from the text that writes it. -/
theorem draft_toCompactText {json : Json} (plain : json.IsPlain) :
    Draft.ofText? json.toCompactText = some json.draft := by
  have basic : Token.IsBasic fun _ => false := nofun
  rw [Draft.ofText?, toCompactText, String.toList_ofList, Token.scan_print basic json plain,
    Option.bind_eq_bind, Option.bind_some, Draft.ofTokens?_tokens]

theorem read?_toCompactText {json : Json} (plain : json.IsPlain) (outline : Outline) :
    read? outline json.toCompactText = json.draft.read? outline nestingLimit := by
  rw [read?, readWithin?, draft_toCompactText plain, Option.bind_eq_bind, Option.bind_some]

/-- Members that are read as a whole are read as in a value that is read as a whole. -/
theorem Draft.readMembers_of_whole {outline : Outline} {members : List (String × Json)}
    (whole : ∀ member ∈ members, outline.member? member.1 = some .whole) (room : Nat) :
    readMembers outline room (memberDrafts members) =
      readMembers .whole room (memberDrafts members) := by
  induction members with
  | nil => rfl
  | cons member members ih =>
      obtain ⟨name, value⟩ := member
      obtain ⟨head, tail⟩ := List.forall_mem_cons.mp whole
      have head_eq : outline.member? name = Outline.whole.member? name := head
      simp only [memberDrafts, readMembers, head_eq, ih tail]

end Json

/-! ## Shapes -/

namespace ColumnType

theorem isPlain_toJson (type : ColumnType) : type.toJson.IsPlain := by
  cases type <;>
    simp [toJson, members, Json.IsPlain, Json.HavePlainValues, Json.isPlain_byte]

theorem depth_toJson (type : ColumnType) : type.toJson.depth = 1 := by
  cases type <;>
    simp [toJson, members, Json.depth, Json.membersDepth, Json.byte, Json.natural]

end ColumnType

namespace Column

theorem isPlain_toJson (column : Column) : column.toJson.IsPlain := by
  simp [toJson, Json.IsPlain, Json.HavePlainValues, ColumnType.isPlain_toJson]

theorem depth_toJson (column : Column) : column.toJson.depth = 2 := by
  simp [toJson, Json.depth, Json.membersDepth, ColumnType.depth_toJson]

end Column

namespace Layout

theorem isPlain_members (layout : Layout) : Json.HavePlainValues layout.members := by
  cases layout with
  | atomic type => simp [members, Json.IsPlain, Json.HavePlainValues, ColumnType.isPlain_toJson]
  | composite parts positional =>
      simp [members, Json.IsPlain, Json.HavePlainValues, Json.arePlain_iff, Column.isPlain_toJson]
  | generic => simp [members, Json.IsPlain, Json.HavePlainValues]

/-- The deepest layouts are those with parts, whose types are records. -/
theorem membersDepth_members_le (layout : Layout) : Json.membersDepth layout.members ≤ 3 := by
  cases layout with
  | atomic type => simp [members, Json.depth, Json.membersDepth, ColumnType.depth_toJson]
  | composite parts positional =>
      have parts_le : Json.elementsDepth (parts.map Column.toJson) ≤ 2 := by
        simp [Json.elementsDepth_le_iff, Column.depth_toJson]
      simp only [members, Json.depth, Json.membersDepth]
      omega
  | generic => simp [members, Json.depth, Json.membersDepth]

end Layout

namespace Declaration

theorem isPlain_toJson (declaration : Declaration) : declaration.toJson.IsPlain := by
  cases named : declaration.name <;>
    simp [toJson, Json.IsPlain, Json.HavePlainValues, named]

/-- A written declaration has no members but those that are read. -/
theorem read?_draft_toJson (declaration : Declaration) (room : Nat) :
    declaration.toJson.draft.read? outline (room + 1) = some declaration.toJson := by
  cases named : declaration.name <;>
    simp [toJson, named, Json.draft, Json.memberDrafts, Json.Draft.read?, Json.Draft.readMembers,
      outline, Json.Outline.member?_plain]

end Declaration

namespace Shape

theorem isPlain_toJson (shape : Shape) : shape.toJson.IsPlain := by
  simp [toJson, Json.IsPlain, Json.HavePlainValues, Declaration.isPlain_toJson,
    Layout.isPlain_members]

/-- The limit leaves room for every shape. -/
theorem read?_draft_toJson (shape : Shape) :
    shape.toJson.draft.read? outline Json.nestingLimit = some shape.toJson := by
  have declaration_outline : outline.member? "type_class" = some Declaration.outline := rfl
  have declaration_read := shape.declaration.read?_draft_toJson 125
  have whole : ∀ member ∈ shape.layout.members, outline.member? member.1 = some .whole := by
    cases shape.layout <;> simp [Layout.members, outline, Json.Outline.member?, List.lookup_cons]
  have layout_read : Json.Draft.readMembers outline 126 (Json.memberDrafts shape.layout.members) =
      some shape.layout.members := by
    have small := shape.layout.membersDepth_members_le
    rw [Json.Draft.readMembers_of_whole whole,
      Json.Draft.readMembers_memberDrafts _ shape.layout.isPlain_members, if_pos (by omega)]
  simp [toJson, Json.draft, Json.memberDrafts, Json.nestingLimit, Json.Draft.read?,
    Json.Draft.readMembers, declaration_outline, declaration_read, layout_read]

/-- Every shape is read back from its text. -/
theorem ofText?_toCompactText (shape : Shape) :
    ofText? shape.toJson.toCompactText = some shape := by
  rw [ofText?, Json.read?_toCompactText shape.isPlain_toJson, read?_draft_toJson,
    Option.bind_eq_bind, Option.bind_some, ofJson?_toJson]

end Shape

/-! ## Expressions -/

namespace Expression

theorem isPlain_toJson (expression : Expression) : expression.toJson.IsPlain := by
  induction expression with
  | reference name => simp [toJson, Json.IsPlain, Json.HavePlainValues]
  | renamed inner name ih => simp [toJson, Json.IsPlain, Json.HavePlainValues, ih]
  | rowtime inner ih => simp [toJson, Json.IsPlain, Json.HavePlainValues, ih]
  | proctime inner ih => simp [toJson, Json.IsPlain, Json.HavePlainValues, ih]
  | unsupported description => simp [toJson, Json.IsPlain, Json.HavePlainValues]

/-- An expression nests as deeply as it is high. -/
theorem depth_toJson (expression : Expression) : expression.toJson.depth = expression.height := by
  induction expression with
  | reference name => simp [toJson, Json.depth, Json.membersDepth, height]
  | renamed inner name ih => simp [toJson, Json.depth, Json.membersDepth, height, ih]
  | rowtime inner ih => simp [toJson, Json.depth, Json.membersDepth, height, ih]
  | proctime inner ih => simp [toJson, Json.depth, Json.membersDepth, height, ih]
  | unsupported description => simp [toJson, Json.depth, Json.membersDepth, height]

/-- Expressions are read back from their text exactly if none of them is too high. -/
theorem listOfText?_toCompactText (expressions : List Expression) :
    listOfText? (listToJson expressions).toCompactText =
      if ∀ expression ∈ expressions, expression.height < Json.nestingLimit then some expressions
      else none := by
  have plain : (listToJson expressions).IsPlain := by
    simp [listToJson, Json.IsPlain, Json.arePlain_iff, isPlain_toJson]
  have depth_le_iff : (listToJson expressions).depth ≤ Json.nestingLimit ↔
      ∀ expression ∈ expressions, expression.height < Json.nestingLimit := by
    have limit_eq : Json.nestingLimit = 126 + 1 := rfl
    rw [listToJson, Json.depth, limit_eq, Nat.add_le_add_iff_right, Json.elementsDepth_le_iff]
    simp [depth_toJson, Nat.lt_succ_iff]
  rw [listOfText?, Json.read?_toCompactText plain, Json.Draft.read?_draft _ plain]
  simp only [depth_le_iff]
  split_ifs
  · exact listOfJson?_listToJson expressions
  · rfl

end Expression

/-- A shape is always read back from its text.  Expressions are read back from theirs exactly if
each is at most as high as the limit leaves room for beside the array around them. -/
theorem written_texts_read (shape : Shape) (expressions : List Expression) :
    Shape.ofText? shape.toJson.toCompactText = some shape ∧
      Expression.listOfText? (Expression.listToJson expressions).toCompactText =
        if ∀ expression ∈ expressions, expression.height ≤ 126 then some expressions else none := by
  have room_iff : ∀ expression : Expression,
      expression.height < Json.nestingLimit ↔ expression.height ≤ 126 :=
    fun expression => Nat.lt_succ_iff
  refine ⟨shape.ofText?_toCompactText, ?_⟩
  rw [Expression.listOfText?_toCompactText]
  simp only [room_iff]

end Tabulate
