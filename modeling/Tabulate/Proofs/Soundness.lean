import Tabulate.Proofs.Derive

/-!
# Soundness of derived schemas

A field comes from one of four producers: it is read by name, by place or around a lone value, or it
is offered by the shape on its own.  Each of them makes parts with the type of their origin and time
attributes whose type matches their origin, so counting marked fields by origin and type counts them
by origin alone.  Hence the promises in `Schema.Sound` hold of every derived schema.
-/

namespace Tabulate

/-- A value of the input with its own type, or a time attribute of the given precision. -/
inductive Field.Sourced (precision : UInt8) (typeAt? : Nat → Option ColumnType) : Field → Prop
  | physical {name : String} {place : Nat} {type : ColumnType}
      (found : typeAt? place = some type) :
      Sourced precision typeAt? { name, origin := .physical place, type }
  | rowtime (name : String) : Sourced precision typeAt? (.ofRowtime precision name)
  | proctime (name : String) : Sourced precision typeAt? (.ofProctime precision name)

/-- The type of the input at a place; a lone value stands at every place. -/
def Shape.sourceType? (shape : Shape) (place : Nat) : Option ColumnType :=
  match shape.layout with
  | .atomic type => some type
  | _ => shape.typeAt? place

/-- What a derived schema promises about its fields. -/
structure Schema.Sound (settings : Settings) (shape : Shape) (expressions : List Expression)
    (schema : Schema) : Prop where
  /-- The names are distinct. -/
  names_nodup : schema.names.Nodup
  /-- No name is the star. -/
  star_notMem : "*" ∉ schema.names
  /-- Each expression has one field. -/
  size_of_expressions : expressions ≠ [] → schema.size = expressions.length
  /-- Without expressions, each part has one field. -/
  size_of_composite : expressions = [] → shape.isComposite = true → schema.size = shape.arity
  /-- Without expressions, a lone value has one field. -/
  size_of_atomic : expressions = [] → ∀ type, shape.layout = .atomic type → schema.size = 1
  /-- A field marked as row-time has the row-time type. -/
  rowtime_type : ∀ field ∈ schema.fields, field.origin = .rowtime →
    field.type = .timestamp settings.precision .rowtime
  /-- A field marked as proc-time has the proc-time type. -/
  proctime_type : ∀ field ∈ schema.fields, field.origin = .proctime →
    field.type = .timestamp settings.precision .proctime
  /-- Time attributes have at most nine fractional digits. -/
  precision_le : settings.precision ≤ 9
  /-- One field at most is marked as row-time. -/
  rowtime_le_one : schema.origins.count .rowtime ≤ 1
  /-- One field at most is marked as proc-time. -/
  proctime_le_one : schema.origins.count .proctime ≤ 1
  /-- The schema states truly whether a field is marked as row-time. -/
  hasRowtime_iff : schema.hasRowtime = true ↔ schema.origins.count .rowtime = 1
  /-- Over parts, a physical field stands for the part at its place. -/
  physical_of_composite : shape.isComposite = true → ∀ field ∈ schema.fields, ∀ place,
    field.origin = .physical place →
      place < shape.arity ∧ shape.typeAt? place = some field.type
  /-- Over a lone value, one field at most is physical, and it has the type of the value. -/
  physical_of_atomic : ∀ type, shape.layout = .atomic type →
    schema.fields.countP Field.isPhysical ≤ 1 ∧
      ∀ field ∈ schema.fields, ∀ place, field.origin = .physical place → field.type = type

namespace Field

variable {precision : UInt8} {typeAt? : Nat → Option ColumnType} {field : Field}

theorem Sourced.isRowtime_eq (sourced : field.Sourced precision typeAt?) :
    field.isRowtime = decide (field.origin = .rowtime) := by
  cases sourced with
  | physical found => rfl
  | rowtime name => rfl
  | proctime name => rfl

theorem Sourced.isProctime_eq (sourced : field.Sourced precision typeAt?) :
    field.isProctime = decide (field.origin = .proctime) := by
  cases sourced with
  | physical found => rfl
  | rowtime name => rfl
  | proctime name => rfl

theorem Sourced.type_of_rowtime (sourced : field.Sourced precision typeAt?)
    (marked : field.origin = .rowtime) : field.type = .timestamp precision .rowtime := by
  cases sourced with
  | physical found => cases marked
  | rowtime name => rfl
  | proctime name => cases marked

theorem Sourced.type_of_proctime (sourced : field.Sourced precision typeAt?)
    (marked : field.origin = .proctime) : field.type = .timestamp precision .proctime := by
  cases sourced with
  | physical found => cases marked
  | rowtime name => cases marked
  | proctime name => rfl

theorem Sourced.typeAt?_of_physical (sourced : field.Sourced precision typeAt?) {place : Nat}
    (marked : field.origin = .physical place) : typeAt? place = some field.type := by
  cases sourced with
  | physical found =>
      cases marked
      exact found
  | rowtime name => cases marked
  | proctime name => cases marked

/-- A test that tells the fields of a mark counts the mark among the origins. -/
theorem countP_eq_count_origin {test : Field → Bool} {mark : Origin} {fields : List Field}
    (agree : ∀ field ∈ fields, test field = decide (field.origin = mark)) :
    fields.countP test = (fields.map Field.origin).count mark := by
  rw [List.count, List.countP_map]
  apply List.countP_congr
  intro field member
  simp [agree field member]

end Field

/-! ## The four producers -/

theorem Shape.GrantsByName.sourced {precision : UInt8} {shape : Shape} {expression : Expression}
    {field : Field} (granted : shape.GrantsByName precision expression field) :
    field.Sourced precision shape.typeAt? := by
  cases granted with
  | reference first => exact .physical first.typeAt?_eq
  | renamed first => exact .physical first.typeAt?_eq
  | rowtime givesWay => exact .rowtime _
  | renamedRowtime present givesWay => exact .rowtime _
  | proctime absent => exact .proctime _
  | renamedProctime absent => exact .proctime _

theorem Shape.GrantsByPlace.sourced {precision : UInt8} {shape : Shape} {place : Nat}
    {expression : Expression} {field : Field}
    (granted : shape.GrantsByPlace precision place expression field) :
    field.Sourced precision shape.typeAt? := by
  cases granted with
  | reference found => exact .physical found
  | rowtime givesWay => exact .rowtime _
  | proctime behind => exact .proctime _
  | renamedProctime behind => exact .proctime _

theorem ColumnType.GrantsAround.sourced {precision : UInt8} {type : ColumnType} {place : Nat}
    {expression : Expression} {field : Field}
    (granted : type.GrantsAround precision place expression field) :
    field.Sourced precision fun _ => some type := by
  cases granted with
  | reference => exact .physical rfl
  | rowtime => exact .rowtime _
  | renamedRowtime => exact .rowtime _
  | proctime => exact .proctime _
  | renamedProctime => exact .proctime _

/-- Around a lone value, the plain references are granted the physical fields. -/
theorem ColumnType.GrantsAround.isPhysical_eq {precision : UInt8} {type : ColumnType}
    {place : Nat} {expression : Expression} {field : Field}
    (granted : type.GrantsAround precision place expression field) :
    expression.reference?.isSome = field.isPhysical := by
  cases granted <;> rfl

namespace Shape

variable {precision : UInt8} {shape : Shape} {expressions : List Expression} {fields : List Field}

theorem sourceType?_of_composite (composite : shape.isComposite = true) :
    shape.sourceType? = shape.typeAt? := by
  obtain ⟨parts, positional, layout_eq⟩ := isComposite_eq_true_iff.mp composite
  funext place
  simp only [sourceType?, layout_eq]

theorem sourced_of_mem_naturalFields {base : String} {field : Field}
    (member : field ∈ shape.naturalFields base) :
    field.Sourced precision shape.sourceType? := by
  obtain ⟨declaration, layout⟩ := shape
  cases layout with
  | atomic type =>
      obtain rfl := List.mem_singleton.mp member
      exact .physical rfl
  | composite parts positional =>
      obtain ⟨place, inside, rfl⟩ := List.mem_mapIdx.mp member
      exact .physical (typeAt?_eq_some_iff.mpr ⟨_, List.getElem?_eq_getElem inside⟩)
  | generic => simp [naturalFields, partFields, parts] at member

/-- Every expression is granted one field, with its source. -/
theorem sourced_of_resolve (resolved : shape.resolve precision expressions = .ok fields) :
    fields.length = expressions.length ∧
      ∀ field ∈ fields, field.Sourced precision shape.sourceType? := by
  obtain ⟨declaration, layout⟩ := shape
  cases layout with
  | generic => cases resolved
  | atomic type =>
      obtain ⟨granted, -⟩ := ColumnType.fieldsAround_eq_ok_iff.mp resolved
      exact ⟨by simpa using granted.length_eq.symm,
        Outcome.forall_mem_of_forall₂ granted fun _ _ => ColumnType.GrantsAround.sourced⟩
  | composite parts positional =>
      rw [resolve_of_composite rfl] at resolved
      split at resolved
      · have granted := fieldsByPlace_eq_ok_iff.mp resolved
        exact ⟨by simpa using granted.length_eq.symm,
          Outcome.forall_mem_of_forall₂ granted fun _ _ => GrantsByPlace.sourced⟩
      · have granted := fieldsByName_eq_ok_iff.mp resolved
        exact ⟨granted.length_eq.symm,
          Outcome.forall_mem_of_forall₂ granted fun _ _ => GrantsByName.sourced⟩

/-- Around a lone value, one field at most is physical. -/
theorem countP_isPhysical_of_resolve {type : ColumnType} (lone : shape.layout = .atomic type)
    (resolved : shape.resolve precision expressions = .ok fields) :
    fields.countP Field.isPhysical ≤ 1 := by
  simp only [resolve, lone] at resolved
  obtain ⟨granted, count_le⟩ := ColumnType.fieldsAround_eq_ok_iff.mp resolved
  have counts_eq := Outcome.countP_eq_of_forall₂ granted fun _ _ =>
    ColumnType.GrantsAround.isPhysical_eq
  rw [← List.zipIdx_map_fst 0 expressions, List.countP_map] at count_le
  exact counts_eq ▸ count_le

end Shape

namespace Settings

variable {settings : Settings} {shape : Shape} {expressions : List Expression} {schema : Schema}

theorem sourced_of_derive (derived : settings.derive shape expressions = .ok schema) :
    ∀ field ∈ schema.fields, field.Sourced settings.precision shape.sourceType? := by
  cases expressions with
  | nil =>
      rw [derive_nil] at derived
      obtain ⟨-, -, -, -, -, rfl⟩ := schemaOf_eq_ok_iff.mp derived
      exact fun _ => Shape.sourced_of_mem_naturalFields
  | cons expression expressions =>
      obtain ⟨-, -, resolved, -⟩ := (derive_eq_ok_iff (List.cons_ne_nil _ _)).mp derived
      exact (Shape.sourced_of_resolve resolved).2

theorem size_of_derive (asked : expressions ≠ [])
    (derived : settings.derive shape expressions = .ok schema) :
    schema.size = expressions.length := by
  obtain ⟨-, -, resolved, -⟩ := (derive_eq_ok_iff asked).mp derived
  exact (Shape.sourced_of_resolve resolved).1

theorem size_of_derive_nil (derived : settings.derive shape [] = .ok schema) :
    schema.size = (shape.naturalFields settings.baseName).length := by
  rw [derive_nil] at derived
  obtain ⟨-, -, -, -, -, rfl⟩ := schemaOf_eq_ok_iff.mp derived
  rfl

theorem countP_isPhysical_of_derive {type : ColumnType} (lone : shape.layout = .atomic type)
    (derived : settings.derive shape expressions = .ok schema) :
    schema.fields.countP Field.isPhysical ≤ 1 := by
  cases expressions with
  | nil =>
      have size_eq := size_of_derive_nil derived
      simp only [Shape.naturalFields, lone, List.length_singleton] at size_eq
      exact size_eq ▸ List.countP_le_length
  | cons expression expressions =>
      obtain ⟨-, -, resolved, -⟩ := (derive_eq_ok_iff (List.cons_ne_nil _ _)).mp derived
      exact Shape.countP_isPhysical_of_resolve lone resolved

/-- Every derived schema is sound. -/
theorem sound_of_derive (derived : settings.derive shape expressions = .ok schema) :
    schema.Sound settings shape expressions := by
  have sourced := sourced_of_derive derived
  obtain ⟨starless, compatible, stated⟩ := Field.checkAll_eq_ok_iff.mp (checkAll_of_derive derived)
  -- The checks count by origin and type, the promises by origin alone.
  have rowtimes_eq := Field.countP_eq_count_origin fun field member =>
    (sourced field member).isRowtime_eq
  have proctimes_eq := Field.countP_eq_count_origin fun field member =>
    (sourced field member).isProctime_eq
  constructor
  case names_nodup => exact compatible.names_nodup
  case star_notMem => exact starless
  case size_of_expressions =>
    intro asked
    exact size_of_derive asked derived
  case size_of_composite =>
    rintro rfl composite
    rw [size_of_derive_nil derived, Shape.naturalFields_of_composite composite,
      Shape.length_partFields]
  case size_of_atomic =>
    rintro rfl type lone
    rw [size_of_derive_nil derived, Shape.naturalFields, lone]
    rfl
  case rowtime_type => exact fun field member => (sourced field member).type_of_rowtime
  case proctime_type => exact fun field member => (sourced field member).type_of_proctime
  case precision_le => exact (validate_eq_ok_iff.mp (validate_of_derive derived)).2.2
  case rowtime_le_one => exact rowtimes_eq ▸ compatible.rowtimes_le_one
  case proctime_le_one => exact proctimes_eq ▸ compatible.proctimes_le_one
  case hasRowtime_iff =>
    rw [stated, decide_eq_true_eq, rowtimes_eq]
    rfl
  case physical_of_composite =>
    intro composite field member place marked
    have found := (sourced field member).typeAt?_of_physical marked
    rw [Shape.sourceType?_of_composite composite] at found
    exact ⟨Shape.lt_arity_of_typeAt? found, found⟩
  case physical_of_atomic =>
    intro type lone
    refine ⟨countP_isPhysical_of_derive lone derived, ?_⟩
    intro field member place marked
    have found := (sourced field member).typeAt?_of_physical marked
    simp only [Shape.sourceType?, lone, Option.some.injEq] at found
    exact found.symm

/-- A row-time attribute in place of the first part of a pair. -/
theorem sound_of_derive_pair :
    derive {} .pair [.rowtime (.reference "at"), .reference "name"] =
        .ok
          { fields :=
              [.ofRowtime 3 "at", { name := "name", origin := .physical 1, type := .varchar }]
            hasRowtime := true } ∧
      Schema.Sound {} .pair [.rowtime (.reference "at"), .reference "name"]
        { fields :=
            [.ofRowtime 3 "at", { name := "name", origin := .physical 1, type := .varchar }]
          hasRowtime := true } :=
  ⟨rfl, sound_of_derive rfl⟩

end Settings
end Tabulate
