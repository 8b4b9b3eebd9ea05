import Tabulate.Expression.Json
import Tabulate.Field.Json
import Tabulate.Shape.Json
import Tabulate.Table

/-!
# Values in JSON

What is written as JSON is read back.  A record is written as an object with each of its members
once, its tag first, so every member is found under its name.  Inside a tagged record the same
objects are read, with tags that could also be numbers.
-/

namespace Tabulate

namespace Json

@[simp]
theorem toCase?_text (cases : List String) (name : String) :
    toCase? cases (.text name) = some name := rfl

/-- A list is read back if each of its elements is. -/
theorem toList?_array_map {α : Type} {write : α → Json} {read : Json → Option α} {values : List α}
    (read_write : ∀ value ∈ values, read (write value) = some value) :
    toList? read (.array (values.map write)) = some values := by
  rw [toList?]
  induction values with
  | nil => rfl
  | cons value values ih =>
      obtain ⟨head, tail⟩ := List.forall_mem_cons.mp read_write
      simp [head, ih tail]

namespace Record

variable {α : Type}

/-- The tag of a record is found in front of its other members. -/
theorem tagged?_cons {tag name : String} {readTag : α → Option String} {value : α}
    {members : List (String × α)} (read : readTag value = some name)
    (untagged : tag ∉ members.map Prod.fst) :
    (named ((tag, value) :: members)).tagged? tag readTag = some (name, .named members) := by
  have distinct : ∀ member ∈ members, member.1 ≠ tag := by
    rintro member inside rfl
    exact untagged (List.mem_map_of_mem inside)
  have alone : members.filter (·.1 = tag) = [] :=
    List.filter_eq_nil_iff.mpr fun member inside => by simpa using distinct member inside
  have kept : members.filter (·.1 ≠ tag) = members :=
    List.filter_eq_self.mpr fun member inside => by simpa using distinct member inside
  simp only [tagged?, member?, List.filter_cons, alone, kept, decide_true, if_true, ne_eq,
    not_true_eq_false, decide_false, Bool.false_eq_true, if_false, Option.bind_eq_bind,
    Option.bind_some, read]

/-- A case without members is accepted whatever members there are. -/
theorem empty?_named (members : List (String × α)) : (named members).empty? = some () := rfl

end Record
end Json

/-! ## Types -/

@[simp]
theorem TimeRole.ofName?_name (role : TimeRole) : ofName? role.name = some role := by
  cases role <;> rfl

@[simp]
theorem Visibility.ofName?_name (visibility : Visibility) :
    ofName? visibility.name = some visibility := by
  cases visibility <;> rfl

@[simp]
theorem Nesting.ofName?_name (nesting : Nesting) : ofName? nesting.name = some nesting := by
  cases nesting <;> rfl

namespace ColumnType

/-- A type is read from the members behind its tag. -/
theorem ofTagged?_object {readTag : Json → Option String} {tag : Json} {name : String}
    {members : List (String × Json)} (read : readTag tag = some name)
    (untagged : "type" ∉ members.map Prod.fst) :
    ofTagged? readTag (.object (("type", tag) :: members)) = ofRecord? (.named members) name := by
  simp [ofTagged?, Json.Record.ofJson?, Json.Record.tagged?_cons read untagged]

/-- A type is read back, however its tag is read. -/
theorem ofTagged?_toJson {readTag : Json → Option String}
    (readTag_text : ∀ name, readTag (.text name) = some name) (type : ColumnType) :
    ofTagged? readTag type.toJson = some type := by
  cases type with
  | decimal precision scale =>
      rw [toJson, members, ofTagged?_object (readTag_text "decimal") (by simp)]
      simp [ofRecord?, Json.Record.fields?, Json.Record.member?]
  | time precision =>
      rw [toJson, members, ofTagged?_object (readTag_text "time") (by simp)]
      simp [ofRecord?, Json.Record.fields?, Json.Record.member?, Json.orDefault]
  | timestamp precision role =>
      rw [toJson, members, ofTagged?_object (readTag_text "timestamp") (by simp)]
      simp [ofRecord?, Json.Record.fields?, Json.Record.member?, Json.orDefault, roleOfJson?]
  | raw typeName =>
      rw [toJson, members, ofTagged?_object (readTag_text "raw") (by simp)]
      simp [ofRecord?, Json.Record.fields?, Json.Record.member?]
  | _ =>
      rw [toJson, members, ofTagged?_object (readTag_text _) (by simp)]
      rfl

theorem ofJson?_toJson (type : ColumnType) : ofJson? type.toJson = some type :=
  ofTagged?_toJson Json.toText?_text type

theorem ofInnerJson?_toJson (type : ColumnType) : ofInnerJson? type.toJson = some type :=
  ofTagged?_toJson (Json.toCase?_text cases) type

end ColumnType

namespace Column

/-- A column is read back if its type is. -/
theorem ofFields?_toJson {readType : Json → Option ColumnType} {column : Column}
    (read : readType column.type.toJson = some column.type) :
    ofFields? readType column.toJson = some column := by
  simp [ofFields?, toJson, Json.Record.ofJson?, Json.Record.fields?, Json.Record.member?, read]

theorem ofJson?_toJson (column : Column) : ofJson? column.toJson = some column :=
  ofFields?_toJson column.type.ofJson?_toJson

theorem ofInnerJson?_toJson (column : Column) : ofInnerJson? column.toJson = some column :=
  ofFields?_toJson column.type.ofInnerJson?_toJson

end Column

/-! ## Shapes -/

namespace Declaration

theorem nameOfJson?_elim (name : Option String) :
    nameOfJson? (name.elim .null .text) = some name := by
  cases name with
  | none => rfl
  | some name => rfl

theorem ofJson?_toJson (declaration : Declaration) :
    ofJson? declaration.toJson = some declaration := by
  simp [ofJson?, toJson, Json.Record.ofJson?, Json.Record.fields?, Json.Record.member?,
    Json.orDefault, nameOfJson?_elim, Visibility.ofJson?, Nesting.ofJson?]

end Declaration

namespace Shape

theorem ofJson?_toJson (shape : Shape) : ofJson? shape.toJson = some shape := by
  obtain ⟨declaration, layout⟩ := shape
  cases layout with
  | atomic type =>
      simp [ofJson?, toJson, Layout.members, Json.Record.member?, Json.Record.tagged?,
        Declaration.ofJson?_toJson, Layout.ofRecord?, Json.Record.fields?,
        ColumnType.ofInnerJson?_toJson]
  | composite parts positional =>
      have parts_read :
          (Json.array (parts.map Column.toJson)).toList? Column.ofInnerJson? = some parts :=
        Json.toList?_array_map fun part _ => part.ofInnerJson?_toJson
      simp [ofJson?, toJson, Layout.members, Json.Record.member?, Json.Record.tagged?,
        Declaration.ofJson?_toJson, Layout.ofRecord?, Json.Record.fields?, parts_read,
        Json.orDefault]
  | generic =>
      simp [ofJson?, toJson, Layout.members, Json.Record.member?, Json.Record.tagged?,
        Declaration.ofJson?_toJson, Layout.ofRecord?, Json.Record.empty?_named]

end Shape

/-! ## Expressions -/

namespace Expression

/-- An expression is read from the members behind its tag. -/
theorem ofTagged?_named {readTag : Json → Option String} {tag : Json} {name : String}
    {members : List (String × Json)} (read : readTag tag = some name)
    (untagged : "kind" ∉ members.map Prod.fst) :
    ofTagged? readTag (.named (readMembers (("kind", tag) :: members))) =
      ofRecord? (.named (readMembers members)) name := by
  have names_eq : (readMembers members).map Prod.fst = members.map Prod.fst := by
    simp [readMembers_eq_map]
  have found : (Json.Record.named (readMembers (("kind", tag) :: members))).tagged? "kind"
      (fun member => readTag member.json) = some (name, .named (readMembers members)) := by
    rw [readMembers]
    exact Json.Record.tagged?_cons read (names_eq ▸ untagged)
  rw [ofTagged?, found]
  rfl

/-- The members of an expression, its tag first. -/
def members : Expression → List (String × Json)
  | reference name => [("kind", .text "reference"), ("name", .text name)]
  | renamed inner name => [("kind", .text "alias"), ("expr", inner.toJson), ("name", .text name)]
  | rowtime inner => [("kind", .text "row_time"), ("expr", inner.toJson)]
  | proctime inner => [("kind", .text "proc_time"), ("expr", inner.toJson)]
  | unsupported description =>
    [("kind", .text "unsupported"), ("description", .text description)]

theorem toJson_eq_object (expression : Expression) :
    expression.toJson = .object expression.members := by
  cases expression with
  | reference name => rfl
  | renamed inner name => rfl
  | rowtime inner => rfl
  | proctime inner => rfl
  | unsupported description => rfl

theorem ofInnerJson?_toJson (expression : Expression) :
    ofInnerJson? expression.toJson =
      ofTagged? (Json.toCase? cases) (.named (readMembers expression.members)) := by
  rw [toJson_eq_object, ofInnerJson?]

/-- An expression is read back, however its tag is read. -/
theorem ofTagged?_members {readTag : Json → Option String}
    (readTag_text : ∀ name, readTag (.text name) = some name) (expression : Expression) :
    ofTagged? readTag (.named (readMembers expression.members)) = some expression := by
  induction expression generalizing readTag with
  | reference name =>
      rw [members, ofTagged?_named (readTag_text "reference") (by simp)]
      simp [ofRecord?, readMembers, Json.Record.fields?, Json.Record.member?, Member.text?]
  | renamed inner name ih =>
      rw [members, ofTagged?_named (readTag_text "alias") (by simp)]
      simp [ofRecord?, readMembers, Json.Record.fields?, Json.Record.member?, Member.text?,
        ofInnerJson?_toJson, ih (Json.toCase?_text cases)]
  | rowtime inner ih =>
      rw [members, ofTagged?_named (readTag_text "row_time") (by simp)]
      simp [ofRecord?, readMembers, Json.Record.fields?, Json.Record.member?,
        ofInnerJson?_toJson, ih (Json.toCase?_text cases)]
  | proctime inner ih =>
      rw [members, ofTagged?_named (readTag_text "proc_time") (by simp)]
      simp [ofRecord?, readMembers, Json.Record.fields?, Json.Record.member?,
        ofInnerJson?_toJson, ih (Json.toCase?_text cases)]
  | unsupported description =>
      rw [members, ofTagged?_named (readTag_text "unsupported") (by simp)]
      simp [ofRecord?, readMembers, Json.Record.fields?, Json.Record.member?, Member.text?]

theorem ofJson?_toJson (expression : Expression) :
    ofJson? expression.toJson = some expression := by
  rw [toJson_eq_object, ofJson?, ofTagged?_members Json.toText?_text]

theorem listOfJson?_listToJson (expressions : List Expression) :
    listOfJson? (listToJson expressions) = some expressions :=
  Json.toList?_array_map fun expression _ => expression.ofJson?_toJson

end Expression

/-! ## Fields and tables -/

/-- Whether an origin can be written: its place is below the bound. -/
def Origin.IsWritable : Origin → Prop
  | physical place => place < placeBound
  | _ => True

theorem Origin.ofJson?_toJson {origin : Origin} (writable : origin.IsWritable) :
    ofJson? origin.toJson = some origin := by
  cases origin with
  | physical place =>
      have below : place < placeBound := writable
      simp [ofJson?, toJson, below]
  | rowtime => rfl
  | proctime => rfl

theorem Field.ofJson?_toJson {field : Field} (writable : field.origin.IsWritable) :
    ofJson? field.toJson = some field := by
  simp [ofJson?, toJson, Json.Record.ofJson?, Json.Record.fields?, Json.Record.member?,
    Origin.ofJson?_toJson writable, ColumnType.ofJson?_toJson]

theorem Table.ofJson?_toJson (table : Table) : ofJson? table.toJson = some table := by
  have columns_read :
      (Json.array (table.columns.map Column.toJson)).toList? Column.ofJson? = some table.columns :=
    Json.toList?_array_map fun column _ => column.ofJson?_toJson
  simp [ofJson?, toJson, Json.Record.ofJson?, Json.Record.fields?, Json.Record.member?,
    columns_read]

/-- Every value is read back from the JSON that writes it, as long as its places can be written. -/
theorem written_values_read (type : ColumnType) (declaration : Declaration) (shape : Shape)
    (expression : Expression) (origin : Origin) (field : Field) (table : Table)
    (origin_writable : origin.IsWritable) (field_writable : field.origin.IsWritable) :
    ColumnType.ofJson? type.toJson = some type ∧
      Declaration.ofJson? declaration.toJson = some declaration ∧
      Shape.ofJson? shape.toJson = some shape ∧
      Expression.ofJson? expression.toJson = some expression ∧
      Origin.ofJson? origin.toJson = some origin ∧
      Field.ofJson? field.toJson = some field ∧
      Table.ofJson? table.toJson = some table :=
  ⟨type.ofJson?_toJson, declaration.ofJson?_toJson, shape.ofJson?_toJson,
    expression.ofJson?_toJson, Origin.ofJson?_toJson origin_writable,
    Field.ofJson?_toJson field_writable, table.ofJson?_toJson⟩

/-- The greatest place can be written, and so can a time attribute. -/
theorem written_values_read_greatest :
    (Origin.physical 18446744073709551615).IsWritable ∧
      (Field.ofRowtime 3 "\"at\"").origin.IsWritable ∧
      ColumnType.ofJson? (ColumnType.raw "\\").toJson = some (.raw "\\") ∧
      Declaration.ofJson? (Declaration.toJson { name := none }) = some { name := none } ∧
      Shape.ofJson? (Shape.toJson ⟨{ name := none, nesting := .inner }, .generic⟩) =
        some ⟨{ name := none, nesting := .inner }, .generic⟩ ∧
      Expression.ofJson? (Expression.rowtime (.renamed (.reference "") "\n")).toJson =
        some (.rowtime (.renamed (.reference "") "\n")) ∧
      Origin.ofJson? (Origin.physical 18446744073709551615).toJson =
        some (.physical 18446744073709551615) ∧
      Field.ofJson? (Field.ofRowtime 3 "\"at\"").toJson = some (.ofRowtime 3 "\"at\"") ∧
      Table.ofJson? (Table.toJson { columns := [⟨"", .date⟩, ⟨"", .date⟩] }) =
        some { columns := [⟨"", .date⟩, ⟨"", .date⟩] } := by
  have greatest : (Origin.physical 18446744073709551615).IsWritable := by
    show 18446744073709551615 < Origin.placeBound
    decide
  have marked : (Field.ofRowtime 3 "\"at\"").origin.IsWritable := trivial
  exact ⟨greatest, marked, written_values_read _ _ _ _ _ _ _ greatest marked⟩

end Tabulate
