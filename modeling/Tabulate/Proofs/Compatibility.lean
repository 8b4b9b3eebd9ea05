import Mathlib.Data.List.Count
import Tabulate.Derivation.Check
import Tabulate.Proofs.Names
import Tabulate.Proofs.Outcome

/-!
# Compatible fields

The fields of a schema have distinct names and hold at most one time attribute of each kind.  Both
the checks of a derivation and the constructor of schemas refuse anything else, each in its own
words.  A derivation also refuses the star as a name, so whatever passes its checks is a schema.
-/

namespace Tabulate
namespace Field

/-- Fields with distinct names, and with at most one time attribute of each kind. -/
structure Compatible (fields : List Field) : Prop where
  names_nodup : (fields.map Field.name).Nodup
  rowtimes_le_one : fields.countP Field.isRowtime ≤ 1
  proctimes_le_one : fields.countP Field.isProctime ≤ 1

/-- The checks across fields pass compatible fields without a star, and tell whether one of them is
the row-time attribute. -/
theorem checkAll_eq_ok_iff {fields : List Field} {hasRowtime : Bool} :
    checkAll fields = .ok hasRowtime ↔
      "*" ∉ fields.map Field.name ∧ Compatible fields ∧
        hasRowtime = decide (fields.countP Field.isRowtime = 1) := by
  simp only [checkAll, Outcome.throw_eq_error, Outcome.error_bind, Outcome.refuse_eq_ok_iff,
    Outcome.bind_eq_ok_iff, Names.checkDistinct_eq_ok_iff, Outcome.pure_eq_ok, Except.ok.injEq,
    ← List.countP_eq_length_filter]
  constructor
  · rintro ⟨starless, _, distinct, rowtimes, proctimes, rfl⟩
    exact ⟨starless, ⟨distinct, by omega, by omega⟩, rfl⟩
  · rintro ⟨starless, compatible, rfl⟩
    have rowtimes := compatible.rowtimes_le_one
    have proctimes := compatible.proctimes_le_one
    exact ⟨starless, (), compatible.names_nodup, by omega, by omega, rfl⟩

/-- The checks across fields tell whether there is a row-time attribute. -/
theorem hasRowtime_iff_of_checkAll {fields : List Field} {hasRowtime : Bool}
    (checked : checkAll fields = .ok hasRowtime) :
    hasRowtime = true ↔ ∃ field ∈ fields, field.isRowtime = true := by
  obtain ⟨-, compatible, rfl⟩ := checkAll_eq_ok_iff.mp checked
  have rowtimes := compatible.rowtimes_le_one
  rw [decide_eq_true_eq, ← List.countP_pos_iff]
  omega

/-- Whether the values of a field stand at a place of the input. -/
def isPhysical (field : Field) : Bool :=
  match field.origin with
  | .physical _ => true
  | _ => false

theorem isPhysical_eq_true_iff {field : Field} :
    field.isPhysical = true ↔ ∃ place, field.origin = .physical place := by
  obtain ⟨name, origin, type⟩ := field
  cases origin <;> simp [isPhysical]

/-- A field with a place in the input is no time attribute. -/
theorem not_timeAttribute_of_isPhysical {field : Field} (physical : field.isPhysical = true) :
    field.isRowtime = false ∧ field.isProctime = false := by
  obtain ⟨name, origin, type⟩ := field
  cases origin with
  | physical place => exact ⟨rfl, rfl⟩
  | rowtime => cases physical
  | proctime => cases physical

section Physical

variable {fields : List Field} (physical : ∀ field ∈ fields, field.isPhysical = true)
include physical

theorem countP_timeAttribute_of_physical :
    fields.countP Field.isRowtime = 0 ∧ fields.countP Field.isProctime = 0 := by
  rw [List.countP_eq_zero, List.countP_eq_zero]
  constructor
  · intro field member
    simp [(not_timeAttribute_of_isPhysical (physical field member)).1]
  · intro field member
    simp [(not_timeAttribute_of_isPhysical (physical field member)).2]

/-- Of physical fields, the checks of a derivation look at the names alone. -/
theorem checkAll_of_physical :
    checkAll fields =
      if "*" ∈ fields.map Field.name then .error .starField
      else Names.checkDistinct (fields.map Field.name) >>= fun _ => .ok false := by
  obtain ⟨rowtimes, proctimes⟩ := countP_timeAttribute_of_physical physical
  simp [checkAll, ← List.countP_eq_length_filter, rowtimes, proctimes]

/-- Of physical fields, the constructor of schemas looks at the names alone. -/
theorem ofFields_of_physical :
    Schema.ofFields fields false =
      Names.checkDistinct (fields.map Field.name) >>= fun _ =>
        .ok { fields, hasRowtime := false } := by
  obtain ⟨rowtimes, proctimes⟩ := countP_timeAttribute_of_physical physical
  simp [Schema.ofFields, rowtimes, proctimes]

end Physical

end Field

namespace Schema

/-- A schema is made of compatible fields and a true statement about the row-time attribute. -/
theorem ofFields_eq_ok_iff {fields : List Field} {hasRowtime : Bool} {schema : Schema} :
    ofFields fields hasRowtime = .ok schema ↔
      Field.Compatible fields ∧ hasRowtime = decide (fields.countP Field.isRowtime = 1) ∧
        schema = { fields, hasRowtime } := by
  simp only [ofFields, Outcome.throw_eq_error, Outcome.error_bind, Outcome.refuse_eq_ok_iff,
    Outcome.bind_eq_ok_iff, Names.checkDistinct_eq_ok_iff, Outcome.pure_eq_ok, Except.ok.injEq,
    ne_eq, not_not]
  constructor
  · rintro ⟨_, distinct, rowtimes, stated, proctimes, rfl⟩
    exact ⟨⟨distinct, by omega, by omega⟩, stated, rfl⟩
  · rintro ⟨compatible, stated, rfl⟩
    have rowtimes := compatible.rowtimes_le_one
    have proctimes := compatible.proctimes_le_one
    exact ⟨(), compatible.names_nodup, by omega, stated, by omega, rfl⟩

/-- The three views of some fields describe these fields. -/
theorem ofParts_map (fields : List Field) (hasRowtime : Bool) :
    ofParts (fields.map Field.name) (fields.map Field.origin) (fields.map Field.type) hasRowtime =
      ofFields fields hasRowtime := by
  simp [ofParts, zipFields_map]

/-- Fields that pass the checks of a derivation are the fields of a schema. -/
theorem ofFields_of_checkAll {fields : List Field} {hasRowtime : Bool}
    (checked : Field.checkAll fields = .ok hasRowtime) :
    ofFields fields hasRowtime = .ok { fields, hasRowtime } := by
  obtain ⟨-, compatible, stated⟩ := Field.checkAll_eq_ok_iff.mp checked
  exact ofFields_eq_ok_iff.mpr ⟨compatible, stated, rfl⟩

end Schema
end Tabulate
