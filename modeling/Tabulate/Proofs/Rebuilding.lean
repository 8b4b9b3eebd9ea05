import Tabulate.Proofs.Assembly
import Tabulate.Proofs.Encoding

/-!
# Rebuilding schemas

A schema is obtained from the constructors or from a derivation, and all of them make sure that its
fields are compatible and its statement is true.  This is all that the constructors ask for, so
they accept what a schema consists of: its three views, its fields, and the fields that are read
back from its JSON.  Only a place that is too great to be written as JSON is lost, and no
derivation from a shape and expressions of a bounded size has such a place.
-/

namespace Tabulate

namespace Schema

/-- The ways to obtain a schema. -/
inductive Obtained : Schema → Prop
  | ofParts {names : List String} {origins : List Origin} {types : List ColumnType}
      {hasRowtime : Bool} {schema : Schema}
      (made : Schema.ofParts names origins types hasRowtime = .ok schema) : Obtained schema
  | ofFields {fields : List Field} {hasRowtime : Bool} {schema : Schema}
      (made : Schema.ofFields fields hasRowtime = .ok schema) : Obtained schema
  | schemaOf {settings : Settings} {shape : Shape} {schema : Schema}
      (derived : settings.schemaOf shape = .ok schema) : Obtained schema
  | derive {settings : Settings} {shape : Shape} {expressions : List Expression} {schema : Schema}
      (derived : settings.derive shape expressions = .ok schema) : Obtained schema

/-- The fields and the statement in the JSON of a schema. -/
def partsOfJson? (json : Json) : Option (List Field × Bool) := do
  let [some fields, some hasRowtime] ←
    (← Json.Record.ofJson? json).fields? ["fields", "rowtime_defined"] | none
  some (← fields.toList? Field.ofJson?, ← hasRowtime.toBool?)

/-- How a schema is rebuilt from what it consists of. -/
structure Rebuilt (schema : Schema) : Prop where
  /-- Its names, origins, types and statement make it again. -/
  ofParts_eq : ofParts schema.names schema.origins schema.types schema.hasRowtime = .ok schema
  /-- Its fields and its statement make it again. -/
  ofFields_eq : ofFields schema.fields schema.hasRowtime = .ok schema
  /-- The fields and the statement in its JSON make it again, exactly if its places can be
  written. -/
  ofJson_iff : (∃ fields hasRowtime, partsOfJson? schema.toJson = some (fields, hasRowtime) ∧
      ofFields fields hasRowtime = .ok schema) ↔
    ∀ field ∈ schema.fields, field.origin.IsWritable

end Schema

/-! ## JSON -/

/-- A list is read back exactly if each of its elements is. -/
theorem Json.toList?_array_map_eq_some_iff {α : Type} {write : α → Json} {read : Json → Option α}
    {values : List α} :
    toList? read (.array (values.map write)) = some values ↔
      ∀ value ∈ values, read (write value) = some value := by
  refine ⟨fun found => ?_, toList?_array_map⟩
  rw [toList?] at found
  induction values with
  | nil => simp
  | cons value values ih =>
      simp only [List.map_cons, List.mapM_cons, Option.bind_eq_bind, Option.bind_eq_some_iff,
        Option.pure_def, Option.some.injEq, List.cons.injEq] at found
      obtain ⟨_, head, _, tail, rfl, rfl⟩ := found
      exact List.forall_mem_cons.mpr ⟨head, ih tail⟩

theorem Origin.ofJson?_toJson_eq_some_iff {origin : Origin} :
    ofJson? origin.toJson = some origin ↔ origin.IsWritable := by
  refine ⟨fun read => ?_, ofJson?_toJson⟩
  cases origin with
  | physical place =>
      show place < placeBound
      simpa [ofJson?, toJson, Json.toNatBelow?, Json.toNat?, Json.natural, Option.filter] using read
  | rowtime => trivial
  | proctime => trivial

theorem Field.ofJson?_toJson_eq_some_iff {field : Field} :
    ofJson? field.toJson = some field ↔ field.origin.IsWritable := by
  refine ⟨fun read => ?_, ofJson?_toJson⟩
  have members : ofJson? field.toJson =
      (Origin.ofJson? field.origin.toJson).map fun origin => { field with origin } := by
    simp [ofJson?, toJson, Json.Record.ofJson?, Json.Record.fields?, Json.Record.member?,
      ColumnType.ofJson?_toJson, Option.map_eq_bind]
  obtain ⟨origin, found, same⟩ := Option.map_eq_some_iff.mp (members ▸ read)
  rw [← Origin.ofJson?_toJson_eq_some_iff, found, ← congrArg Field.origin same]

namespace Schema

variable {schema : Schema}

/-- What a schema consists of is read from its JSON, exactly if its places can be written. -/
theorem partsOfJson?_toJson_eq_some_iff :
    partsOfJson? schema.toJson = some (schema.fields, schema.hasRowtime) ↔
      ∀ field ∈ schema.fields, field.origin.IsWritable := by
  have members : partsOfJson? schema.toJson =
      ((Json.array (schema.fields.map Field.toJson)).toList? Field.ofJson?).map
        fun fields => (fields, schema.hasRowtime) := by
    simp [partsOfJson?, toJson, Json.Record.ofJson?, Json.Record.fields?, Json.Record.member?,
      Option.map_eq_bind]
  rw [members, Option.map_eq_some_iff]
  simp only [Prod.mk.injEq, and_true, exists_eq_right, Json.toList?_array_map_eq_some_iff,
    Field.ofJson?_toJson_eq_some_iff]

/-! ## Obtained schemas -/

/-- A schema can be obtained exactly if its fields are compatible and its statement is true. -/
theorem obtained_iff :
    schema.Obtained ↔
      Field.Compatible schema.fields ∧
        schema.hasRowtime = decide (schema.fields.countP Field.isRowtime = 1) := by
  constructor
  · intro obtained
    cases obtained with
    | ofParts made =>
        obtain ⟨-, -, compatible, stated⟩ := ofParts_eq_ok_iff.mp made
        exact ⟨compatible, stated⟩
    | ofFields made =>
        obtain ⟨compatible, stated, rfl⟩ := ofFields_eq_ok_iff.mp made
        exact ⟨compatible, stated⟩
    | schemaOf derived =>
        rw [← Settings.derive_nil] at derived
        exact (Field.checkAll_eq_ok_iff.mp (Settings.checkAll_of_derive derived)).2
    | derive derived =>
        exact (Field.checkAll_eq_ok_iff.mp (Settings.checkAll_of_derive derived)).2
  · rintro ⟨compatible, stated⟩
    exact .ofFields (ofFields_eq_ok_iff.mpr ⟨compatible, stated, rfl⟩)

end Schema

/-! ## Places of derived schemas -/

/-- Around a lone value, a physical field stands at the place of its expression. -/
theorem ColumnType.GrantsAround.place_eq {precision : UInt8} {type : ColumnType}
    {place other : Nat} {expression : Expression} {field : Field}
    (granted : type.GrantsAround precision place expression field)
    (marked : field.origin = .physical other) : other = place := by
  cases granted with
  | reference => exact (Origin.physical.inj marked).symm
  | rowtime => cases marked
  | renamedRowtime => cases marked
  | proctime => cases marked
  | renamedProctime => cases marked

/-- Around a lone value, the places are counted along the expressions. -/
theorem ColumnType.place_lt_of_fieldsAround {precision : UInt8} {type : ColumnType}
    {expressions : List Expression} {fields : List Field}
    (resolved : type.fieldsAround precision expressions = .ok fields) :
    ∀ field ∈ fields, ∀ place, field.origin = .physical place → place < expressions.length := by
  obtain ⟨granted, -⟩ := fieldsAround_eq_ok_iff.mp resolved
  have counted : ∀ entry ∈ expressions.zipIdx, entry.2 < expressions.length :=
    fun entry member => List.snd_lt_of_mem_zipIdx member
  refine Outcome.forall_mem_of_forall₂ ((List.forall₂_and_left _ _).mpr ⟨counted, granted⟩) ?_
  rintro entry field ⟨inside, granted⟩ place marked
  exact granted.place_eq marked ▸ inside

namespace Settings

variable {settings : Settings} {shape : Shape} {expressions : List Expression} {schema : Schema}

/-- The places of a derived schema lie among the parts, or among the expressions around a lone
value.  A lone value that is taken as it is stands at place zero. -/
theorem place_lt_of_derive (derived : settings.derive shape expressions = .ok schema) :
    ∀ field ∈ schema.fields, ∀ place, field.origin = .physical place →
      place < max 1 (max shape.arity expressions.length) := by
  intro field member place marked
  have found := (sourced_of_derive derived field member).typeAt?_of_physical marked
  obtain ⟨declaration, layout⟩ := shape
  cases layout with
  | composite parts positional =>
      have inside := Shape.lt_arity_of_typeAt? found
      omega
  | generic =>
      have inside := Shape.lt_arity_of_typeAt? found
      omega
  | atomic type =>
      cases expressions with
      | nil =>
          rw [derive_nil] at derived
          obtain ⟨-, -, -, -, -, rfl⟩ := schemaOf_eq_ok_iff.mp derived
          obtain rfl := List.mem_singleton.mp member
          obtain rfl := Origin.physical.inj marked
          exact Nat.lt_of_lt_of_le Nat.one_pos (Nat.le_max_left _ _)
      | cons expression expressions =>
          obtain ⟨-, -, resolved, -⟩ := (derive_eq_ok_iff (List.cons_ne_nil _ _)).mp derived
          have inside := ColumnType.place_lt_of_fieldsAround resolved field member place marked
          omega

/-- Derived from fewer parts and expressions than there are places to write, a schema can be
written. -/
theorem isWritable_of_derive (derived : settings.derive shape expressions = .ok schema)
    (parts_le : shape.arity ≤ Origin.placeBound)
    (expressions_le : expressions.length ≤ Origin.placeBound) :
    ∀ field ∈ schema.fields, field.origin.IsWritable := by
  intro field member
  cases marked : field.origin with
  | physical place =>
      have inside := place_lt_of_derive derived field member place marked
      have one_le : 1 ≤ Origin.placeBound := by decide
      show place < Origin.placeBound
      omega
  | rowtime => trivial
  | proctime => trivial

end Settings

/-- Every schema is rebuilt from its views, from its fields, and from its JSON if its places can be
written.  They can if it is derived from fewer parts and expressions than there are such places. -/
theorem Schema.rebuilt_of_obtained {schema : Schema} (obtained : schema.Obtained) :
    schema.Rebuilt ∧
      ∀ (settings : Settings) (shape : Shape) (expressions : List Expression),
        settings.derive shape expressions = .ok schema →
        shape.arity ≤ Origin.placeBound → expressions.length ≤ Origin.placeBound →
          ∀ field ∈ schema.fields, field.origin.IsWritable := by
  obtain ⟨compatible, stated⟩ := obtained_iff.mp obtained
  have made : ofFields schema.fields schema.hasRowtime = .ok schema :=
    ofFields_eq_ok_iff.mpr ⟨compatible, stated, rfl⟩
  constructor
  · constructor
    case ofParts_eq => exact ofParts_eq_ok_iff.mpr ⟨⟨rfl, rfl, rfl⟩, rfl, compatible, stated⟩
    case ofFields_eq => exact made
    case ofJson_iff =>
      rw [← partsOfJson?_toJson_eq_some_iff]
      constructor
      · rintro ⟨fields, hasRowtime, read, again⟩
        obtain ⟨-, -, rfl⟩ := ofFields_eq_ok_iff.mp again
        exact read
      · intro read
        exact ⟨_, _, read, made⟩
  · intro settings shape expressions derived
    exact Settings.isWritable_of_derive derived

/-- A row-time attribute in place of a part, and a part under a new name. -/
theorem Schema.rebuilt_of_obtained_pair :
    ∃ schema,
      Settings.derive {} .pair [.rowtime (.reference "at"), .reference "name"] = .ok schema ∧
        schema.Obtained ∧ schema.Rebuilt ∧ Shape.pair.arity ≤ Origin.placeBound ∧
        ∀ field ∈ schema.fields, field.origin.IsWritable := by
  obtain ⟨schema, derived⟩ : ∃ schema,
      Settings.derive {} .pair [.rowtime (.reference "at"), .reference "name"] = .ok schema :=
    ⟨_, rfl⟩
  have obtained : schema.Obtained := .derive derived
  have parts_le : Shape.pair.arity ≤ Origin.placeBound := by decide
  have expressions_le : 2 ≤ Origin.placeBound := by decide
  obtain ⟨rebuilt, writable⟩ := rebuilt_of_obtained obtained
  exact ⟨schema, derived, obtained, rebuilt, parts_le,
    writable {} .pair _ derived parts_le expressions_le⟩

end Tabulate
