import Tabulate.Proofs.Soundness

/-!
# Assembling schemas

A schema is assembled from three lists of equal length, or from fields.  The constructor and the
checks of a derivation count a time attribute by its origin and its type together, so they accept
the same fields, the star aside.  Hence fields that passed the checks are always assembled, and once
its settings, its declaration and the star have been checked, a shape that is taken as it is can be
refused for equal names only.
-/

namespace Tabulate

/-! ## Three lists -/

/-- What the constructor promises of a schema that it makes of three lists and a statement. -/
structure Schema.Assembled (names : List String) (origins : List Origin) (types : List ColumnType)
    (hasRowtime : Bool) (schema : Schema) : Prop where
  /-- There are as many origins as names. -/
  length_origins : origins.length = names.length
  /-- There are as many types as names. -/
  length_types : types.length = names.length
  /-- The fields have the given names, in order. -/
  names_eq : schema.names = names
  /-- The fields have the given origins, in order. -/
  origins_eq : schema.origins = origins
  /-- The fields have the given types, in order. -/
  types_eq : schema.types = types
  /-- The names are distinct. -/
  names_nodup : names.Nodup
  /-- One field at most is marked and typed as row-time. -/
  rowtimes_le_one : schema.fields.countP Field.isRowtime ≤ 1
  /-- One field at most is marked and typed as proc-time. -/
  proctimes_le_one : schema.fields.countP Field.isProctime ≤ 1
  /-- The schema makes the given statement. -/
  stated_eq : schema.hasRowtime = hasRowtime
  /-- The schema states truly whether one field is marked and typed as row-time. -/
  hasRowtime_iff : schema.hasRowtime = true ↔ schema.fields.countP Field.isRowtime = 1
  /-- If all fields marked as row-time are typed so, the marks alone decide. -/
  rowtime_of_agree : (∀ field ∈ schema.fields, field.origin = .rowtime →
      field.type.isRowtime = true) →
    schema.origins.count .rowtime ≤ 1 ∧
      (schema.hasRowtime = true ↔ schema.origins.count .rowtime = 1)
  /-- If all fields marked as proc-time are typed so, one field at most is marked. -/
  proctime_of_agree : (∀ field ∈ schema.fields, field.origin = .proctime →
      field.type.isProctime = true) →
    schema.origins.count .proctime ≤ 1

namespace Field

/-- If all fields with a mark have its tag, the mark and the tag are found where the mark is. -/
theorem countP_marked_eq {tagged : ColumnType → Bool} {mark : Origin} {fields : List Field}
    (agree : ∀ field ∈ fields, field.origin = mark → tagged field.type = true) :
    fields.countP (fun field => field.origin = mark && tagged field.type) =
      (fields.map Field.origin).count mark := by
  apply countP_eq_count_origin
  intro field member
  by_cases marked : field.origin = mark
  · simp [marked, agree field member marked]
  · simp [marked]

end Field

namespace Schema

variable {names : List String} {origins : List Origin} {types : List ColumnType}
  {hasRowtime : Bool} {schema : Schema}

/-- Three lists of equal length are the views of the fields that they describe. -/
theorem views_zipFields (origins_length : origins.length = names.length)
    (types_length : types.length = names.length) :
    (zipFields names origins types).map Field.name = names ∧
      (zipFields names origins types).map Field.origin = origins ∧
      (zipFields names origins types).map Field.type = types := by
  induction names generalizing origins types with
  | nil =>
      obtain rfl := List.eq_nil_of_length_eq_zero origins_length
      obtain rfl := List.eq_nil_of_length_eq_zero types_length
      exact ⟨rfl, rfl, rfl⟩
  | cons name names ih =>
      obtain ⟨origin, origins, rfl⟩ := List.exists_cons_of_length_eq_add_one origins_length
      obtain ⟨type, types, rfl⟩ := List.exists_cons_of_length_eq_add_one types_length
      obtain ⟨names_eq, origins_eq, types_eq⟩ :=
        ih (Nat.succ.inj origins_length) (Nat.succ.inj types_length)
      simp only [zipFields, List.map_cons, names_eq, origins_eq, types_eq, and_self]

/-- A schema is made of three lists exactly if they are the views of its fields, the fields are
compatible, and the statement is true of them. -/
theorem ofParts_eq_ok_iff :
    ofParts names origins types hasRowtime = .ok schema ↔
      (schema.names = names ∧ schema.origins = origins ∧ schema.types = types) ∧
        schema.hasRowtime = hasRowtime ∧ Field.Compatible schema.fields ∧
        schema.hasRowtime = decide (schema.fields.countP Field.isRowtime = 1) := by
  constructor
  · intro assembled
    rw [ofParts, Outcome.refuse_eq_ok_iff, ofFields_eq_ok_iff] at assembled
    obtain ⟨lengths, compatible, stated, rfl⟩ := assembled
    exact ⟨views_zipFields (by omega) (by omega), rfl, compatible, stated⟩
  · rintro ⟨⟨rfl, rfl, rfl⟩, rfl, compatible, stated⟩
    rw [names, origins, types, ofParts_map]
    exact ofFields_eq_ok_iff.mpr ⟨compatible, stated, rfl⟩

/-- The constructor lets marks through whose types do not agree with them, any number of them, and
beside a row-time attribute as well. -/
theorem marks_repeated_in_schema :
    (∃ schema, ofParts ["a", "b"] [.rowtime, .rowtime] [.integer, .integer] false = .ok schema ∧
        ¬schema.origins.count .rowtime ≤ 1) ∧
      (∃ schema, ofParts ["a", "b"] [.proctime, .proctime] [.integer, .integer] false =
          .ok schema ∧
        ¬schema.origins.count .proctime ≤ 1) ∧
      ∃ schema, ofParts ["a", "b"] [.rowtime, .rowtime] [.timestamp 3 .rowtime, .integer] true =
          .ok schema ∧
        schema.hasRowtime = true ∧ schema.origins.count .rowtime = 2 :=
  ⟨⟨_, rfl, by decide⟩, ⟨_, rfl, by decide⟩, _, rfl, rfl, rfl⟩

/-- A schema made of three lists has their elements as its fields, under distinct names, with one
time attribute of each kind at most, and states truly whether one is the row-time attribute. -/
theorem assembled_of_ofParts (made : ofParts names origins types hasRowtime = .ok schema) :
    schema.Assembled names origins types hasRowtime := by
  obtain ⟨⟨rfl, rfl, rfl⟩, rfl, compatible, stated⟩ := ofParts_eq_ok_iff.mp made
  have hasRowtime_iff : schema.hasRowtime = true ↔ schema.fields.countP Field.isRowtime = 1 := by
    rw [stated, decide_eq_true_eq]
  constructor
  case length_origins => simp [names, origins]
  case length_types => simp [names, types]
  case names_eq => rfl
  case origins_eq => rfl
  case types_eq => rfl
  case names_nodup => exact compatible.names_nodup
  case rowtimes_le_one => exact compatible.rowtimes_le_one
  case proctimes_le_one => exact compatible.proctimes_le_one
  case stated_eq => rfl
  case hasRowtime_iff => exact hasRowtime_iff
  case rowtime_of_agree =>
    intro agree
    have rowtimes_eq : schema.fields.countP Field.isRowtime = schema.origins.count .rowtime :=
      Field.countP_marked_eq agree
    exact ⟨rowtimes_eq ▸ compatible.rowtimes_le_one, rowtimes_eq ▸ hasRowtime_iff⟩
  case proctime_of_agree =>
    intro agree
    have proctimes_eq : schema.fields.countP Field.isProctime = schema.origins.count .proctime :=
      Field.countP_marked_eq agree
    exact proctimes_eq ▸ compatible.proctimes_le_one

/-- A row-time attribute between a part and a mark of the wrong type. -/
theorem assembled_of_ofParts_triple :
    ∃ schema,
      ofParts ["id", "at", "seen"] [.physical 0, .rowtime, .proctime]
          [.bigInt, .timestamp 3 .rowtime, .varchar] true = .ok schema ∧
        schema.Assembled ["id", "at", "seen"] [.physical 0, .rowtime, .proctime]
          [.bigInt, .timestamp 3 .rowtime, .varchar] true := by
  obtain ⟨schema, made⟩ : ∃ schema,
      ofParts ["id", "at", "seen"] [.physical 0, .rowtime, .proctime]
        [.bigInt, .timestamp 3 .rowtime, .varchar] true = .ok schema := ⟨_, rfl⟩
  exact ⟨schema, made, assembled_of_ofParts made⟩

end Schema

/-! ## Two checks -/

namespace Shape

/-- The natural fields of a shape are named like its parts, or by the base name if it has none. -/
theorem map_name_naturalFields (base : String) (shape : Shape) :
    (shape.naturalFields base).map Field.name = shape.partNames ∨
      (shape.naturalFields base).map Field.name = [base] ∧ shape.partNames = [] := by
  rw [naturalFields]
  split
  next type layout_eq => exact .inr ⟨rfl, by simp [partNames, parts, layout_eq]⟩
  next => exact .inl shape.map_name_partFields

/-- Rows with two parts of one name. -/
def twins : Shape :=
  record { name := some "Twins" }
    [{ name := "id", type := .bigInt }, { name := "id", type := .varchar }]

end Shape

namespace Settings

variable {settings : Settings} {shape : Shape} {expressions : List Expression}
  {fields : List Field} {hasRowtime : Bool}

/-- Once settings, declaration and star have been checked, a known shape is taken as it is unless
two of its parts share a name. -/
theorem schemaOf_of_starless (valid : settings.validate = .ok ())
    (known : shape.isGeneric = false) (access : shape.checkAccessible = .ok ())
    (starless : "*" ∉ shape.partNames) :
    settings.schemaOf shape =
      Names.checkDistinct shape.partNames >>= fun _ =>
        .ok { fields := shape.naturalFields settings.baseName, hasRowtime := false } := by
  rw [schemaOf_eq known, valid, access]
  obtain names_eq | ⟨names_eq, nameless⟩ := shape.map_name_naturalFields settings.baseName
  · simp [names_eq, starless]
  · have named := (validate_eq_ok_iff.mp valid).2.1
    simp [names_eq, nameless, named.symm, Names.checkDistinct_of_nodup]

/-- The checks across fields and the constructor accept the same fields and statements, the star
aside, and the schema consists of them.  Hence a derivation never fails to assemble fields that have
passed the checks, and a shape without a star is taken as it is unless two of its parts share a
name. -/
theorem checkAll_agrees_ofFields :
    (Field.checkAll fields = .ok hasRowtime ↔
        "*" ∉ fields.map Field.name ∧
          ∃ schema, Schema.ofFields fields hasRowtime = .ok schema) ∧
      (∀ schema, Schema.ofFields fields hasRowtime = .ok schema →
        schema.fields = fields ∧ schema.hasRowtime = hasRowtime) ∧
      (expressions ≠ [] → settings.validate = .ok () → shape.checkAccessible = .ok () →
        shape.resolve settings.precision expressions = .ok fields →
        Field.checkAll fields = .ok hasRowtime →
          settings.derive shape expressions = .ok { fields, hasRowtime }) ∧
      (settings.validate = .ok () → shape.isGeneric = false → shape.checkAccessible = .ok () →
        "*" ∉ shape.partNames → ∀ fault, settings.schemaOf shape = .error fault →
          fault = .repeatedNames shape.partNames ∧ ¬shape.partNames.Nodup) := by
  refine ⟨?agree, ?same, ?assembled, ?natural⟩
  case agree =>
    rw [Field.checkAll_eq_ok_iff]
    simp only [Schema.ofFields_eq_ok_iff, exists_and_left, exists_eq, and_true]
  case same =>
    intro schema made
    obtain ⟨-, -, rfl⟩ := Schema.ofFields_eq_ok_iff.mp made
    exact ⟨rfl, rfl⟩
  case assembled =>
    intro asked valid access resolved checked
    have accessible := Shape.checkAccessible_eq_ok_iff.mp access
    exact (derive_eq_ok_iff asked).mpr ⟨valid, accessible, resolved, checked⟩
  case natural =>
    intro valid known access starless fault refused
    rw [schemaOf_of_starless valid known access starless] at refused
    by_cases distinct : shape.partNames.Nodup
    · rw [Names.checkDistinct_of_nodup distinct] at refused
      cases refused
    · rw [Names.checkDistinct_of_not_nodup distinct] at refused
      cases refused
      exact ⟨rfl, distinct⟩

/-- The checked fields of a pair are assembled, and two parts of one name are refused for it. -/
theorem checkAll_agrees_ofFields_pair :
    validate {} = .ok () ∧
      (∃ fields hasRowtime,
        Shape.pair.checkAccessible = .ok () ∧
          Shape.pair.resolve 3 [.rowtime (.reference "f0"), .reference "f1"] = .ok fields ∧
          Field.checkAll fields = .ok hasRowtime ∧
          derive {} .pair [.rowtime (.reference "f0"), .reference "f1"] =
            .ok { fields, hasRowtime }) ∧
      ∃ fault, Shape.twins.isGeneric = false ∧ Shape.twins.checkAccessible = .ok () ∧
        "*" ∉ Shape.twins.partNames ∧ schemaOf {} .twins = .error fault ∧
        fault = .repeatedNames ["id", "id"] ∧ ¬Shape.twins.partNames.Nodup := by
  have valid : validate {} = .ok () := rfl
  refine ⟨valid, ?_, ?_⟩
  · have access : Shape.pair.checkAccessible = .ok () := rfl
    obtain ⟨fields, resolved⟩ : ∃ fields,
        Shape.pair.resolve 3 [.rowtime (.reference "f0"), .reference "f1"] = .ok fields :=
      ⟨_, rfl⟩
    obtain ⟨hasRowtime, checked⟩ : ∃ hasRowtime, Field.checkAll fields = .ok hasRowtime := by
      cases resolved
      exact ⟨_, rfl⟩
    obtain ⟨-, -, assembled, -⟩ := @checkAll_agrees_ofFields {} .pair
      [.rowtime (.reference "f0"), .reference "f1"] fields hasRowtime
    exact ⟨fields, hasRowtime, access, resolved, checked,
      assembled (List.cons_ne_nil _ _) valid access resolved checked⟩
  · have known : Shape.twins.isGeneric = false := rfl
    have access : Shape.twins.checkAccessible = .ok () := rfl
    have starless : "*" ∉ Shape.twins.partNames := by decide
    obtain ⟨fault, refused⟩ : ∃ fault, schemaOf {} .twins = .error fault := ⟨_, rfl⟩
    obtain ⟨-, -, -, natural⟩ := @checkAll_agrees_ofFields {} .twins [] [] false
    exact ⟨fault, known, access, starless, refused,
      natural valid known access starless fault refused⟩

end Settings
end Tabulate
