import Tabulate.Proofs.Soundness

/-!
# Time attributes in tables

A table shows a time attribute by the role of its type alone.  The checks across fields look at the
origin as well, so they let through any part of the input that already has such a type.  Hence the
tagged columns of a table are the time attributes of its schema, one of each kind at most, and the
copies of what was tagged in the input.
-/

namespace Tabulate

/-- How the time attributes of a schema show in its table. -/
structure Schema.TagsExplained (shape : Shape) (schema : Schema) : Prop where
  /-- The row-time columns are the physical ones and the row-time attribute. -/
  rowtimes_eq : schema.table.columns.countP (·.type.isRowtime) =
    (schema.fields.filter Field.isPhysical).countP (·.type.isRowtime) + schema.hasRowtime.toNat
  /-- The schema states truly whether a row-time column is not physical. -/
  hasRowtime_iff : schema.hasRowtime = true ↔
    ∃ field ∈ schema.fields, field.isPhysical = false ∧ field.type.isRowtime = true
  /-- The proc-time columns are the physical ones and the proc-time attribute. -/
  proctimes_eq : schema.table.columns.countP (·.type.isProctime) =
    (schema.fields.filter Field.isPhysical).countP (·.type.isProctime) +
      schema.fields.countP Field.isProctime
  /-- There is one proc-time attribute at most. -/
  proctimes_le_one : schema.fields.countP Field.isProctime ≤ 1
  /-- A physical column has the type that stands at its place of the input. -/
  physical_type : ∀ field ∈ schema.fields, ∀ place, field.origin = .physical place →
    shape.sourceType? place = some field.type
  /-- Without row-time values in the input, there is no row-time column but the attribute. -/
  rowtime_of_untagged :
    (∀ place type, shape.sourceType? place = some type → type.isRowtime = false) →
      schema.table.columns.countP (·.type.isRowtime) ≤ 1 ∧
        (schema.hasRowtime = true ↔ schema.table.columns.countP (·.type.isRowtime) = 1)
  /-- Without proc-time values in the input, there is no proc-time column but the attribute. -/
  proctime_of_untagged :
    (∀ place type, shape.sourceType? place = some type → type.isProctime = false) →
      schema.table.columns.countP (·.type.isProctime) ≤ 1

namespace Field

variable {precision : UInt8} {typeAt? : Nat → Option ColumnType} {field : Field}

/-- A field is a row-time attribute if it has the tag and no place in the input. -/
theorem Sourced.isRowtime_eq_tagged (sourced : field.Sourced precision typeAt?) :
    field.isRowtime = (field.type.isRowtime && !field.isPhysical) := by
  cases sourced with
  | physical found => exact (Bool.and_false _).symm
  | rowtime name => rfl
  | proctime name => rfl

/-- A field is a proc-time attribute if it has the tag and no place in the input. -/
theorem Sourced.isProctime_eq_tagged (sourced : field.Sourced precision typeAt?) :
    field.isProctime = (field.type.isProctime && !field.isPhysical) := by
  cases sourced with
  | physical found => exact (Bool.and_false _).symm
  | rowtime name => rfl
  | proctime name => rfl

/-- The tagged fields are the physical ones and the marked ones. -/
theorem countP_tagged_eq {tagged : ColumnType → Bool} {marked : Field → Bool} {fields : List Field}
    (agree : ∀ field ∈ fields, marked field = (tagged field.type && !field.isPhysical)) :
    (fields.map Field.column).countP (tagged ·.type) =
      (fields.filter Field.isPhysical).countP (tagged ·.type) + fields.countP marked := by
  have others : (fields.filter fun field => !field.isPhysical).countP (tagged ·.type) =
      fields.countP marked := by
    rw [List.countP_filter]
    apply List.countP_congr
    intro field member
    rw [agree field member]
  calc
    (fields.map Field.column).countP (tagged ·.type) = fields.countP (tagged ·.type) := by
      rw [List.countP_map]
      rfl
    _ = (fields.filter Field.isPhysical).countP (tagged ·.type) +
          (fields.filter fun field => !field.isPhysical).countP (tagged ·.type) :=
      List.countP_eq_countP_filter_add _ _ _
    _ = _ := by rw [others]

/-- Physical fields have no tag if the input has none. -/
theorem countP_physical_of_untagged {tagged : ColumnType → Bool} {fields : List Field}
    (sourced : ∀ field ∈ fields, ∀ place, field.origin = .physical place →
      typeAt? place = some field.type)
    (untagged : ∀ place type, typeAt? place = some type → tagged type = false) :
    (fields.filter Field.isPhysical).countP (tagged ·.type) = 0 := by
  rw [List.countP_eq_zero]
  intro field member
  obtain ⟨inside, physical⟩ := List.mem_filter.mp member
  obtain ⟨place, marked⟩ := isPhysical_eq_true_iff.mp physical
  simp [untagged place field.type (sourced field inside place marked)]

end Field

namespace Shape

/-- Rows with two parts whose types are those of time attributes. -/
def replayed : Shape :=
  record { name := some "Replayed" }
    [{ name := "at", type := .timestamp 3 .rowtime },
      { name := "seen", type := .timestamp 3 .proctime }]

/-- References to both parts, each beside a new time attribute of its kind. -/
def replayedTwice : List Expression :=
  [.reference "at", .rowtime (.reference "now"), .reference "seen", .proctime (.reference "then")]

end Shape

namespace Settings

/-- A table can have two columns of each kind of time attribute, and a row-time column without a
row-time attribute. -/
theorem timeAttributes_repeated_in_table :
    (∃ schema, derive {} .replayed Shape.replayedTwice = .ok schema ∧
        ¬schema.table.columns.countP (·.type.isRowtime) ≤ 1 ∧
        ¬schema.table.columns.countP (·.type.isProctime) ≤ 1) ∧
      ∃ schema, derive {} .replayed [.reference "at"] = .ok schema ∧
        ¬(schema.hasRowtime = true ↔ schema.table.columns.countP (·.type.isRowtime) = 1) :=
  ⟨⟨_, rfl, by decide, by decide⟩, _, rfl, by decide⟩

/-- The tagged columns of a derived table are the time attributes of its schema, one of each kind at
most, and the physical columns that were tagged in the input. -/
theorem tagsExplained_of_derive {settings : Settings} {shape : Shape}
    {expressions : List Expression} {schema : Schema}
    (derived : settings.derive shape expressions = .ok schema) :
    schema.TagsExplained shape := by
  have sourced := sourced_of_derive derived
  have checked := checkAll_of_derive derived
  obtain ⟨-, compatible, stated⟩ := Field.checkAll_eq_ok_iff.mp checked
  have rowtimes_eq := Field.countP_tagged_eq fun field member =>
    (sourced field member).isRowtime_eq_tagged
  have proctimes_eq := Field.countP_tagged_eq fun field member =>
    (sourced field member).isProctime_eq_tagged
  have physical_type : ∀ field ∈ schema.fields, ∀ place, field.origin = .physical place →
      shape.sourceType? place = some field.type :=
    fun field member place => (sourced field member).typeAt?_of_physical
  have flag_eq : schema.hasRowtime.toNat = schema.fields.countP Field.isRowtime := by
    obtain absent | single := Nat.le_one_iff_eq_zero_or_eq_one.mp compatible.rowtimes_le_one
    · rw [stated, absent]
      rfl
    · rw [stated, single]
      rfl
  rw [← flag_eq] at rowtimes_eq
  constructor
  case rowtimes_eq => exact rowtimes_eq
  case hasRowtime_iff =>
    rw [Field.hasRowtime_iff_of_checkAll checked]
    refine exists_congr fun field => and_congr_right fun member => ?_
    simp [(sourced field member).isRowtime_eq_tagged, and_comm]
  case proctimes_eq => exact proctimes_eq
  case proctimes_le_one => exact compatible.proctimes_le_one
  case physical_type => exact physical_type
  case rowtime_of_untagged =>
    intro untagged
    rw [Schema.table, rowtimes_eq, Field.countP_physical_of_untagged physical_type untagged,
      Nat.zero_add]
    cases schema.hasRowtime <;> simp
  case proctime_of_untagged =>
    intro untagged
    rw [Schema.table, proctimes_eq, Field.countP_physical_of_untagged physical_type untagged,
      Nat.zero_add]
    exact compatible.proctimes_le_one

/-- A copied row-time column stands beside the row-time attribute. -/
theorem tagsExplained_of_derive_replayed :
    ∃ schema, derive {} .replayed Shape.replayedTwice = .ok schema ∧
      schema.hasRowtime = true ∧ schema.TagsExplained .replayed := by
  obtain ⟨schema, derived, flag⟩ : ∃ schema,
      derive {} .replayed Shape.replayedTwice = .ok schema ∧ schema.hasRowtime = true :=
    ⟨_, rfl, rfl⟩
  exact ⟨schema, derived, flag, tagsExplained_of_derive derived⟩

end Settings
end Tabulate
