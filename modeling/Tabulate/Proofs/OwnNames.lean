import Tabulate.Proofs.Reading

/-!
# Parts under their own names

Referring to every part by its own name, in order, asks for the shape as it is.  The two derivations
take different ways: one looks every name up again, and finds the first part of a repeated name.
They still have the same outcome, because a repetition is refused by both; only the category of a
star differs.
-/

namespace Tabulate
namespace Shape

/-- Rows with a part that is named by the star. -/
def starred : Shape :=
  record { name := some "Starred" } [{ name := "a", type := .date }, { name := "*", type := .date }]

/-- References to every part by its own name. -/
def ownReferences (shape : Shape) : List Expression :=
  shape.partNames.map .reference

theorem readsByPlace_ownReferences {shape : Shape} (inhabited : shape.parts ≠ []) :
    shape.readsByPlace shape.ownReferences = false := by
  rw [← Bool.not_eq_true, readsByPlace_eq_true_iff]
  rintro ⟨-, absent⟩
  obtain ⟨part, member⟩ := List.exists_mem_of_ne_nil _ inhabited
  have present : part.name ∈ shape.partNames := List.mem_map_of_mem member
  exact absent part.name (List.mem_map_of_mem present) present

/-- References to parts are granted fields of the same names, all of them physical. -/
theorem exists_fieldsByName_references (precision : UInt8) {shape : Shape} {names : List String}
    (present : ∀ name ∈ names, name ∈ shape.partNames) :
    ∃ fields, shape.fieldsByName precision (names.map .reference) = .ok fields ∧
      fields.map Field.name = names ∧ ∀ field ∈ fields, field.isPhysical = true := by
  simp only [fieldsByName_eq_ok_iff]
  induction names with
  | nil => exact ⟨[], .nil, rfl, by simp⟩
  | cons name names ih =>
      obtain ⟨namePresent, namesPresent⟩ := List.forall_mem_cons.mp present
      obtain ⟨place, type, first⟩ := exists_isFirst_iff.mpr namePresent
      obtain ⟨fields, granted, names_eq, physical⟩ := ih namesPresent
      refine ⟨{ name, origin := .physical place, type } :: fields, ?_, ?_, ?_⟩
      · exact .cons (.reference first) granted
      · simp [names_eq]
      · exact List.forall_mem_cons.mpr ⟨rfl, physical⟩

/-- In a shape of distinct names, references to all parts are granted the parts in order. -/
theorem fieldsByName_ownReferences (precision : UInt8) {shape : Shape}
    (distinct : shape.partNames.Nodup) :
    shape.fieldsByName precision shape.ownReferences = .ok shape.partFields := by
  rw [fieldsByName_eq_ok_iff, ownReferences, ← map_name_partFields, List.map_map,
    List.forall₂_map_left_iff, List.forall₂_same]
  intro field member
  obtain ⟨place, inside, rfl⟩ := List.mem_mapIdx.mp member
  exact .reference (isFirst_of_nodup distinct (List.getElem?_eq_getElem inside))

end Shape

namespace Settings

/-- What references to every part by its own name come to. -/
theorem derive_ownReferences_eq {settings : Settings} {shape : Shape}
    (composite : shape.isComposite = true) (inhabited : shape.parts ≠ []) :
    settings.derive shape shape.ownReferences = do
      settings.validate
      shape.checkAccessible
      if "*" ∈ shape.partNames then
        throw .starField
      else
        Names.checkDistinct shape.partNames
        return { fields := shape.partFields, hasRowtime := false } := by
  have asked : shape.ownReferences ≠ [] := by
    simpa [Shape.ownReferences, Shape.partNames] using inhabited
  obtain ⟨fields, resolved, names_eq, physical⟩ :=
    Shape.exists_fieldsByName_references settings.precision (fun _ => id)
  have resolve_eq : shape.resolve settings.precision shape.ownReferences = .ok fields := by
    rw [Shape.resolve_of_composite composite, Shape.readsByPlace_ownReferences inhabited]
    exact resolved
  rw [derive_of_ne_nil asked, resolve_eq]
  -- The checks look at names alone, so the fields need to be known only once they are distinct.
  simp only [Outcome.ok_bind, Field.checkAll_of_physical physical, names_eq]
  by_cases star : "*" ∈ shape.partNames
  · simp [star]
  · by_cases distinct : shape.partNames.Nodup
    · have fields_eq : fields = shape.partFields :=
        Except.ok.inj (resolved.symm.trans (Shape.fieldsByName_ownReferences _ distinct))
      simp [star, Names.checkDistinct_of_nodup distinct, fields_eq]
    · simp [star, Names.checkDistinct_of_not_nodup distinct]

/-- Referring to every part by its own name is taking the shape as it is; only a star is refused as
a part by the one and as a field by the other. -/
theorem derive_ownReferences (settings : Settings) {shape : Shape}
    (composite : shape.isComposite = true) :
    (settings.validate = .ok () ∧ shape.checkAccessible = .ok () ∧ "*" ∈ shape.partNames →
      (settings.schemaOf shape).mapError Fault.report =
          .error { category := .structural, message := "Field name can not be '*'." } ∧
        (settings.derive shape shape.ownReferences).mapError Fault.report =
          .error { category := .validation, message := "Field name can not be '*'." }) ∧
      (¬(settings.validate = .ok () ∧ shape.checkAccessible = .ok () ∧ "*" ∈ shape.partNames) →
        settings.derive shape shape.ownReferences = settings.schemaOf shape) := by
  by_cases inhabited : shape.parts = []
  · have nameless : shape.partNames = [] := by simp [Shape.partNames, inhabited]
    simp [Shape.ownReferences, nameless, derive_nil]
  · rw [derive_ownReferences_eq composite inhabited, schemaOf_of_composite composite]
    constructor
    · rintro ⟨valid, access, star⟩
      rw [valid, access]
      simp only [Outcome.ok_bind, star, if_true]
      exact ⟨rfl, rfl⟩
    · intro starless
      cases valid : settings.validate with
      | error fault => rfl
      | ok result =>
          cases access : shape.checkAccessible with
          | error fault => rfl
          | ok result =>
              have absent : "*" ∉ shape.partNames := fun star => starless ⟨valid, access, star⟩
              simp only [absent, if_false]

/-- The star of a shape is refused twice, and a pair without a star is taken alike. -/
theorem derive_ownReferences_starred :
    Shape.starred.isComposite = true ∧
      (schemaOf {} .starred).mapError Fault.report =
        .error { category := .structural, message := "Field name can not be '*'." } ∧
      (derive {} .starred Shape.starred.ownReferences).mapError Fault.report =
        .error { category := .validation, message := "Field name can not be '*'." } ∧
      derive {} .pair Shape.pair.ownReferences = schemaOf {} .pair := by
  have starred : Shape.starred.isComposite = true := rfl
  obtain ⟨natural, asked⟩ := (derive_ownReferences {} starred).1 ⟨rfl, rfl, by decide⟩
  exact ⟨starred, natural, asked, (derive_ownReferences {} rfl).2 (by decide)⟩

end Settings
end Tabulate
