import Tabulate.Proofs.Meaning

/-!
# Readers of records

A reader of records sees nothing but the declared members, each through the reader of its meaning,
and it refuses a record of which a declared member is repeated or refused.  How records are taken
apart is the same for all readers.  What is left to show for a single reader is what it makes of the
members.
-/

namespace Tabulate
namespace Json

/-- A reader of members in the declared order that sees each through the reader of its meaning, and
refuses what that reader refuses. -/
structure ReadsParts {α : Type} (declared : List (String × Meaning))
    (read : List (Option Json) → Option α) : Prop where
  eq_of_alike : ∀ {parts others}, PartsAlike declared parts others → read parts = read others
  eq_none : ∀ {parts}, PartsRefused declared parts → read parts = none

/-- A reader of records that sees nothing but the declared members, and refuses what their readers
refuse. -/
structure ReadsDeclared {α : Type} (declared : Record Json → List (String × Meaning))
    (read : Record Json → Option α) : Prop where
  eq_of_alike : ∀ {record other}, Record.Alike (declared record) record other →
    read record = read other
  eq_none : ∀ {record}, Record.Refused (declared record) record → read record = none

/-! ## Taking records apart -/

/-- Readers that agree on related values agree behind outcomes that are related. -/
theorem bind_eq_of_rel {α β γ : Type} {relation : α → β → Prop} {first : Option α}
    {second : Option β} {read : α → Option γ} {read' : β → Option γ}
    (related : Option.Rel relation first second)
    (same : ∀ value other, first = some value → relation value other → read value = read' other) :
    first.bind read = second.bind read' := by
  cases related with
  | none => rfl
  | some related => exact same _ _ rfl related

theorem PartsAlike.map_leaf {names : List String} {parts others : List (Option Json)}
    (alike : PartsAlike (names.map fun name => (name, .plain)) parts others) :
    parts.map (Option.map leaf) = others.map (Option.map leaf) := by
  induction names generalizing parts others with
  | nil =>
      cases alike
      rfl
  | cons name names ih =>
      cases alike with
      | missing rest => simp [ih rest]
      | present alike rest =>
          have leaf_eq := Option.some.inj alike
          simp [ih rest, leaf_eq]

theorem not_partsRefused_plain (names : List String) (parts : List (Option Json)) :
    ¬PartsRefused (names.map fun name => (name, .plain)) parts := by
  induction names generalizing parts with
  | nil => exact id
  | cons name names ih =>
      cases parts with
      | nil => exact id
      | cons part parts =>
          rintro (⟨value, -, refused⟩ | rest)
          · cases refused
          · exact ih parts rest

namespace ReadsDeclared

variable {α : Type}

theorem fields {declared : List (String × Meaning)} {read : List (Option Json) → Option α}
    (reads : ReadsParts declared read) :
    ReadsDeclared (fun _ => declared) fun record =>
      (record.fields? (declared.map Prod.fst)).bind read where
  eq_of_alike alike := bind_eq_of_rel alike.fields? fun _ _ _ => reads.eq_of_alike
  eq_none refused := Option.bind_eq_none_iff.mpr fun _ parts_eq =>
    reads.eq_none (refused.fields? parts_eq)

/-- A record of plain data is read through the leaves of its members. -/
theorem plain (names : List String) {read : List (Option Json) → Option α}
    (read_leaf : ∀ parts, read (parts.map (Option.map leaf)) = read parts) :
    ReadsDeclared (fun _ => names.map fun name => (name, .plain)) fun record =>
      (record.fields? names).bind read := by
  have reads : ReadsParts (names.map fun name => (name, .plain)) read :=
    { eq_of_alike := fun {parts others} alike => by
        rw [← read_leaf parts, alike.map_leaf, read_leaf]
      eq_none := fun refused => absurd refused (not_partsRefused_plain names _) }
  simpa [Function.comp_def] using fields reads

/-- A record with one member, which may not be missing. -/
theorem single {name : String} {meaning : Meaning} {read : List (Option Json) → Option α}
    {build : meaning.Outcome → Option α}
    (read_some : ∀ value, read [some value] = (meaning.decode value).bind build)
    (read_long : ∀ part part' parts, read (part :: part' :: parts) = none) :
    ReadsDeclared (fun _ => [(name, meaning)]) fun record =>
      (record.fields? [name]).bind read := by
  refine fields ⟨?_, ?_⟩
  · rintro _ _ (_ | ⟨⟨⟩⟩ | ⟨alike, ⟨⟩⟩)
    · rfl
    · rw [read_some, read_some, alike]
  · rintro (_ | ⟨_ | value, _ | _⟩) refused <;> simp [PartsRefused] at refused
    · rw [read_some, refused, Option.bind_none]
    · exact read_long _ _ _

theorem nothing (declared : Record Json → List (String × Meaning)) :
    ReadsDeclared declared fun _ => (none : Option α) :=
  ⟨fun _ => rfl, fun _ => rfl⟩

theorem congr {declared : Record Json → List (String × Meaning)}
    {read read' : Record Json → Option α} (reads : ReadsDeclared declared read)
    (read_eq : ∀ record, read' record = read record) : ReadsDeclared declared read' := by
  rwa [funext read_eq]

/-- A record of a case without members. -/
theorem empty (value : α) :
    ReadsDeclared (fun _ => []) fun record => record.empty?.map fun _ => value := by
  have reads := @plain α [] (fun _ => some value) fun _ => rfl
  refine reads.congr fun record => ?_
  rw [Record.empty?, Option.map_map, Option.map_eq_bind]
  rfl

/-- A reader may differ from another one by refusing the empty array. -/
theorem unlessEmpty {declared : Record Json → List (String × Meaning)}
    {read read' : Record Json → Option α} (reads : ReadsDeclared declared read')
    (empty_eq : read (.placed []) = none)
    (read_eq : ∀ record, record ≠ .placed [] → read record = read' record) :
    ReadsDeclared declared read where
  eq_of_alike {record other} alike := by
    by_cases empty : record = .placed []
    · cases alike with
      | named => cases empty
      | @placed elements others length_eq =>
          obtain rfl : elements = [] := Record.placed.inj empty
          rw [List.eq_nil_of_length_eq_zero length_eq.symm]
    · have other_nonempty : other ≠ .placed [] := by
        rintro rfl
        cases alike with
        | placed length_eq => exact empty (congrArg _ (List.eq_nil_of_length_eq_zero length_eq))
      rw [read_eq record empty, read_eq other other_nonempty, reads.eq_of_alike alike]
  eq_none {record} refused := by
    by_cases empty : record = .placed []
    · rw [empty, empty_eq]
    · rw [read_eq record empty, reads.eq_none refused]

/-- A tagged record is read through its tag and what the reader of the case sees. -/
theorem tagged {tag : String} {readTag : Json → Option String}
    {members : String → List (String × Meaning)} {read : Record Json → String → Option α}
    (readTag_leaf : ∀ json, readTag json.leaf = readTag json)
    (distinct : ∀ name, (tag :: (members name).map Prod.fst).Nodup)
    (reads : ∀ name, ReadsDeclared (fun _ => members name) (read · name)) :
    ReadsDeclared (Meaning.tagged tag readTag members) fun record =>
      (record.tagged? tag readTag).bind fun (name, rest) => read rest name where
  eq_of_alike {record other} alike := by
    have untagged_members : tag ∉ ((record.tagged? tag readTag).elim []
        fun (name, _) => members name).map Prod.fst := by
      cases record.tagged? tag readTag with
      | none => exact List.not_mem_nil
      | some found => exact (List.nodup_cons.mp (distinct found.1)).1
    refine bind_eq_of_rel (alike.tagged? readTag_leaf untagged_members) ?_
    rintro ⟨name, rest⟩ ⟨otherName, otherRest⟩ found ⟨name_eq, rest_alike⟩
    cases name_eq
    rw [found] at rest_alike
    exact (reads name).eq_of_alike rest_alike
  eq_none {record} refused := by
    refine Option.bind_eq_none_iff.mpr ?_
    rintro ⟨name, rest⟩ found
    rw [Meaning.tagged, found] at refused
    have untagged := (List.nodup_cons.mp (distinct name)).1
    exact (reads name).eq_none (refused.tagged? untagged found)

end ReadsDeclared

/-! ## Types, columns, fields and tables -/

theorem orDefault_map_leaf {α : Type} (fallback : α) {read : Json → Option α}
    (read_leaf : ∀ json, read json.leaf = read json) (part : Option Json) :
    orDefault fallback read (part.map leaf) = orDefault fallback read part := by
  cases part with
  | none => rfl
  | some value => exact read_leaf value

theorem readsDeclared_ofType (name : String) :
    ReadsDeclared (fun _ => Meaning.ofType name) (ColumnType.ofRecord? · name) := by
  unfold ColumnType.ofRecord?
  split
  any_goals first | exact .empty _ | exact .nothing _
  · refine .plain ["precision", "scale"] fun parts => ?_
    rcases parts with _ | ⟨_ | precision, _ | ⟨_ | scale, _ | _⟩⟩ <;> simp [toByte?_leaf]
  · refine .plain ["precision"] fun parts => ?_
    rcases parts with _ | ⟨precision, _ | _⟩ <;> simp [orDefault_map_leaf, toByte?_leaf]
  · refine .plain ["precision", "kind"] fun parts => ?_
    rcases parts with _ | ⟨precision, _ | ⟨role, _ | _⟩⟩ <;>
      simp [orDefault_map_leaf, toByte?_leaf, roleOfJson?_leaf]
  · refine .plain ["type_name"] fun parts => ?_
    rcases parts with _ | ⟨_ | typeName, _ | _⟩ <;> simp [toText?_leaf]

theorem readsDeclared_columnType (inner : Bool) :
    ReadsDeclared (Meaning.declared (.columnType inner)) fun record =>
      Meaning.decode (.columnType inner) record.toJson := by
  have reads := ReadsDeclared.tagged (Meaning.readTag_leaf inner ColumnType.cases)
    Meaning.distinct_ofType readsDeclared_ofType
  exact reads.congr fun record => by cases inner <;> cases record <;> rfl

theorem readsDeclared_ofFields {inner : Bool} {readType : Json → Option ColumnType}
    (readType_eq : Meaning.decode (.columnType inner) = readType) :
    ReadsDeclared (Meaning.declared (.column inner)) fun record =>
      Column.ofFields? readType record.toJson := by
  simp only [Column.ofFields?, Record.ofJson?_toJson, Option.bind_eq_bind, Option.bind_some]
  refine .fields ⟨?_, ?_⟩
  -- Each member is missing in both records or present in both, and a missing one is refused.
  · rintro _ _ (_ | rest | ⟨name, rest⟩) <;> rcases rest with _ | ⟨⟨⟩⟩ | ⟨type, ⟨⟩⟩
    case present.present.nil =>
      rw [readType_eq] at type
      simp only [read_eq_of_leaf toText?_leaf name, type]
    all_goals rfl
  · intro parts refused
    rcases parts with _ | ⟨_ | name, _ | ⟨_ | type, _ | _⟩⟩ <;> simp [PartsRefused] at refused ⊢
    have type_none : readType type = none := readType_eq ▸ refused
    simp [type_none]

theorem readsDeclared_column (inner : Bool) :
    ReadsDeclared (Meaning.declared (.column inner)) fun record =>
      Meaning.decode (.column inner) record.toJson := by
  cases inner with
  | false => exact readsDeclared_ofFields rfl
  | true => exact readsDeclared_ofFields rfl

theorem readsDeclared_field :
    ReadsDeclared (Meaning.declared .field) fun record => Field.ofJson? record.toJson := by
  simp only [Field.ofJson?, Record.ofJson?_toJson, Option.bind_eq_bind, Option.bind_some]
  refine .fields ⟨?_, ?_⟩
  · rintro _ _ (_ | rest | ⟨name, rest⟩) <;> rcases rest with _ | rest | ⟨origin, rest⟩ <;>
      rcases rest with _ | ⟨⟨⟩⟩ | ⟨type, ⟨⟩⟩
    case present.present.present.nil =>
      have type_eq : ColumnType.ofJson? _ = ColumnType.ofJson? _ := type
      simp only [read_eq_of_leaf toText?_leaf name, read_eq_of_leaf originOfJson?_leaf origin,
        type_eq]
    all_goals rfl
  · intro parts refused
    rcases parts with _ | ⟨_ | name, _ | ⟨_ | origin, _ | ⟨_ | type, _ | _⟩⟩⟩ <;>
      simp [PartsRefused] at refused ⊢
    have type_none : ColumnType.ofJson? type = none := refused
    simp [type_none]

theorem readsDeclared_table :
    ReadsDeclared (Meaning.declared .table) fun record => Table.ofJson? record.toJson := by
  simp only [Table.ofJson?, Record.ofJson?_toJson, Option.bind_eq_bind, Option.bind_some]
  exact .single (fun _ => rfl) fun part _ _ => by cases part <;> rfl

/-! ## Shapes -/

theorem readsDeclared_declaration :
    ReadsDeclared (Meaning.declared .declaration) fun record =>
      Declaration.ofJson? record.toJson := by
  refine .unlessEmpty (@ReadsDeclared.plain _ ["name", "visibility", "nesting"] ?_ ?leaf) rfl ?same
  case same =>
    rintro (members | _ | _) nonempty
    · rfl
    · exact absurd rfl nonempty
    · rfl
  case leaf =>
    intro parts
    rcases parts with _ | ⟨name, _ | ⟨visibility, _ | ⟨nesting, _ | _⟩⟩⟩ <;>
      simp [orDefault_map_leaf, nameOfJson?_leaf, visibilityOfJson?_leaf, nestingOfJson?_leaf]

theorem readsDeclared_ofLayout (name : String) :
    ReadsDeclared (fun _ => Meaning.ofLayout name) (Layout.ofRecord? · name) := by
  unfold Layout.ofRecord?
  split
  any_goals first | exact .empty _ | exact .nothing _
  · exact .single (fun _ => rfl) fun part _ _ => by cases part <;> rfl
  · refine .fields ⟨?_, ?_⟩
    · rintro _ _ (_ | rest | ⟨fields, rest⟩) <;> rcases rest with _ | ⟨⟨⟩⟩ | ⟨positional, ⟨⟩⟩
      · rfl
      · rfl
      · have fields_eq : toList? Column.ofInnerJson? _ = toList? Column.ofInnerJson? _ := fields
        simp only [fields_eq]
      · have fields_eq : toList? Column.ofInnerJson? _ = toList? Column.ofInnerJson? _ := fields
        simp only [fields_eq, orDefault, read_eq_of_leaf toBool?_leaf positional]
    · intro parts refused
      rcases parts with _ | ⟨_ | fields, _ | ⟨_ | positional, _ | _⟩⟩ <;>
        simp [PartsRefused, Meaning.ofLayout] at refused ⊢
      all_goals
        have fields_none : toList? Column.ofInnerJson? fields = none := refused
        simp [fields_none]

/-- The declaration and the layout of a shape are read from the same members. -/
theorem shapeOfJson?_object (members : List (String × Json)) :
    Shape.ofJson? (.object members) =
      (((Record.member? "type_class" members).map (Option.map Meaning.declaration.decode)).bind
        fun part => part.bind id).bind fun declaration =>
          (((Record.named members).tagged? "kind" (toCase? Layout.cases)).bind
            fun (name, rest) => Layout.ofRecord? rest name).bind fun layout =>
              some { declaration, layout } := by
  rw [Shape.ofJson?]
  rcases Record.member? "type_class" members with _ | _ | value
  · rfl
  · rfl
  · simp [Option.bind_assoc]
    rfl

theorem readsDeclared_shape :
    ReadsDeclared (Meaning.declared .shape) fun record => Shape.ofJson? record.toJson := by
  have layout_reads := ReadsDeclared.tagged (toCase?_leaf Layout.cases)
    (fun name => (Meaning.distinct_ofLayout name).of_cons) readsDeclared_ofLayout
  constructor
  · rintro record other alike
    cases alike with
    | @named members others alike =>
        obtain ⟨declaration_eq, rest⟩ := List.forall_mem_cons.mp alike
        have layout_eq := layout_reads.eq_of_alike (.named rest)
        change Shape.ofJson? (.object members) = Shape.ofJson? (.object others)
        rw [shapeOfJson?_object, shapeOfJson?_object, declaration_eq, layout_eq]
    | placed => rfl
  -- The declaration stands in front of the members of the layout.
  · rintro record refused
    cases refused with
    | @named member members known refused =>
        change Shape.ofJson? (.object members) = none
        rw [shapeOfJson?_object]
        cases known with
        | head =>
            cases found : Record.member? "type_class" members with
            | none => rfl
            | some part =>
                obtain ⟨value, rfl, value_none⟩ := refused part found
                simp [value_none]
        | tail _ known =>
            rw [layout_reads.eq_none (.named known refused)]
            exact Option.bind_eq_none_iff.mpr fun _ _ => rfl
    | placed => rfl

/-! ## Expressions -/

namespace Record

/-- The record whose members are the images under a function. -/
def map {α β : Type} (image : α → β) : Record α → Record β
  | .named members => .named (members.map (Prod.map id image))
  | .placed elements => .placed (elements.map image)

theorem filter_map_image {α β : Type} (image : α → β) (test : String → Bool)
    (members : List (String × α)) :
    (members.map (Prod.map id image)).filter (test ·.1) =
      (members.filter (test ·.1)).map (Prod.map id image) := by
  rw [List.filter_map]
  rfl

theorem member?_map {α β : Type} (image : α → β) (name : String) (members : List (String × α)) :
    member? name (members.map (Prod.map id image)) =
      (member? name members).map (Option.map image) := by
  rw [member?, filter_map_image image (decide <| · = name), member?]
  generalize members.filter (·.1 = name) = found
  rcases found with _ | ⟨_, _ | _⟩ <;> rfl

theorem fields?_map {α β : Type} (image : α → β) (names : List String) (record : Record α) :
    (record.map image).fields? names =
      (record.fields? names).map (List.map (Option.map image)) := by
  cases record with
  | named members =>
      simp only [map, Record.fields?, member?_map]
      induction names with
      | nil => rfl
      | cons name names ih =>
          simp only [List.mapM_cons, ih]
          cases member? name members with
          | none => rfl
          | some part => cases names.mapM (member? · members) <;> rfl
  | placed elements =>
      simp only [map, Record.fields?, List.length_map]
      split <;> simp [Function.comp_def]

theorem tagged?_map {α β : Type} (image : α → β) (tag : String) (readTag : β → Option String)
    (record : Record α) :
    (record.map image).tagged? tag readTag =
      (record.tagged? tag (readTag ∘ image)).map (Prod.map id (map image)) := by
  cases record with
  | named members =>
      simp only [map, Record.tagged?, member?_map]
      rw [filter_map_image image (decide <| · ≠ tag)]
      rcases member? tag members with _ | _ | value
      · rfl
      · rfl
      · simp only [Option.map_some, Option.bind_eq_bind, Option.bind_some, Function.comp_apply]
        cases readTag (image value) <;> rfl
  | placed elements =>
      cases elements with
      | nil => rfl
      | cons value elements =>
          simp only [map, List.map_cons, Record.tagged?, Function.comp_apply]
          cases readTag (image value) <;> rfl

end Record

/-- A member of an object together with the expression that its value writes. -/
def expressionMember (json : Json) : Expression.Member :=
  ⟨json, Expression.ofInnerJson? json⟩

/-- Inside a tagged record or not, expressions are read from members paired with expressions. -/
theorem decode_expression_toJson (inner : Bool) (record : Record Json) :
    Meaning.decode (.expression inner) record.toJson =
      Expression.ofTagged? (Meaning.readTag inner Expression.cases)
        (record.map expressionMember) := by
  cases record with
  | named members =>
      have members_eq : Record.map expressionMember (.named members) =
          .named (Expression.readMembers members) := by
        rw [Expression.readMembers_eq_map]
        rfl
      rw [members_eq]
      cases inner with
      | false => rfl
      | true =>
          change Expression.ofInnerJson? (.object members) = _
          rw [Expression.ofInnerJson?]
          rfl
  | placed elements =>
      have elements_eq : Record.map expressionMember (.placed elements) =
          .placed (Expression.readElements elements) := by
        rw [Expression.readElements_eq_map]
        rfl
      rw [elements_eq]
      cases inner with
      | false => rfl
      | true =>
          change Expression.ofInnerJson? (.array elements) = _
          rw [Expression.ofInnerJson?]
          rfl

theorem expressionOfTagged?_map (readTag : Json → Option String) (record : Record Json) :
    Expression.ofTagged? readTag (record.map expressionMember) =
      (record.tagged? "kind" readTag).bind fun (name, rest) =>
        Expression.ofRecord? (rest.map expressionMember) name := by
  rw [Expression.ofTagged?, Record.tagged?_map, Option.bind_eq_bind, Option.bind_map]
  rfl

theorem readsDeclared_ofExpression (name : String) :
    ReadsDeclared (fun _ => Meaning.ofExpression name) fun record =>
      Expression.ofRecord? (record.map expressionMember) name := by
  unfold Expression.ofRecord?
  simp only [Record.fields?_map, Option.bind_eq_bind, Option.bind_map, Function.comp_def]
  split
  any_goals exact .nothing _
  · refine .plain ["name"] fun parts => ?_
    rcases parts with _ | ⟨_ | name, _ | _⟩ <;>
      simp [expressionMember, Expression.Member.text?, toText?_leaf]
  · refine .fields ⟨?_, ?_⟩
    · rintro _ _ (_ | rest | ⟨inner, rest⟩) <;> rcases rest with _ | ⟨⟨⟩⟩ | ⟨name, ⟨⟩⟩
      · rfl
      · rfl
      · rfl
      · have inner_eq : Expression.ofInnerJson? _ = Expression.ofInnerJson? _ := inner
        simp only [List.map_cons, List.map_nil, Option.map_some, expressionMember, inner_eq,
          Expression.Member.text?, read_eq_of_leaf toText?_leaf name]
    · intro parts refused
      rcases parts with _ | ⟨_ | inner, _ | ⟨_ | name, _ | _⟩⟩ <;>
        simp [PartsRefused, Meaning.ofExpression] at refused ⊢
      have inner_none : Expression.ofInnerJson? inner = none := refused
      simp [expressionMember, inner_none]
  · exact .single (fun _ => rfl) fun part _ _ => by cases part <;> rfl
  · exact .single (fun _ => rfl) fun part _ _ => by cases part <;> rfl
  · refine .plain ["description"] fun parts => ?_
    rcases parts with _ | ⟨_ | description, _ | _⟩ <;>
      simp [expressionMember, Expression.Member.text?, toText?_leaf]

theorem readsDeclared_expression (inner : Bool) :
    ReadsDeclared (Meaning.declared (.expression inner)) fun record =>
      Meaning.decode (.expression inner) record.toJson := by
  have reads := ReadsDeclared.tagged (Meaning.readTag_leaf inner Expression.cases)
    Meaning.distinct_ofExpression readsDeclared_ofExpression
  refine reads.congr fun record => ?_
  rw [← expressionOfTagged?_map]
  exact decode_expression_toJson inner record

/-- The reader of a meaning that stands for records sees only the declared members. -/
theorem Meaning.readsDeclared {meaning : Meaning} (record : meaning.IsRecord) :
    ReadsDeclared meaning.declared fun record => meaning.decode record.toJson := by
  cases meaning with
  | plain => exact record.elim
  | declaration => exact readsDeclared_declaration
  | shape => exact readsDeclared_shape
  | columnType inner => exact readsDeclared_columnType inner
  | column inner => exact readsDeclared_column inner
  | columns inner => exact record.elim
  | expression inner => exact readsDeclared_expression inner
  | field => exact readsDeclared_field
  | table => exact readsDeclared_table

end Json
end Tabulate
