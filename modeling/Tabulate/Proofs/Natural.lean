import Mathlib.Data.List.Nodup
import Tabulate.Derivation
import Tabulate.Proofs.Compatibility
import Tabulate.Proofs.Fresh
import Tabulate.Proofs.Lookup

/-!
# Shapes as they are

Without expressions, a shape offers its parts in order, or its lone value under a made-up name.  The
schema of a shape consists of these fields, unless one of their names is the star or two of them
share a name.
-/

namespace Tabulate
namespace Shape

/-- The parts of a shape as fields, each at its own place. -/
def partFields (shape : Shape) : List Field :=
  shape.parts.mapIdx fun place part =>
    { name := part.name, origin := .physical place, type := part.type }

/-- The fields that a shape offers on its own; `base` names a lone value. -/
def naturalFields (base : String) (shape : Shape) : List Field :=
  match shape.layout with
  | .atomic type => [{ name := base, origin := .physical 0, type }]
  | _ => shape.partFields

@[simp]
theorem length_partFields (shape : Shape) : shape.partFields.length = shape.arity := by
  simp [partFields, arity]

@[simp]
theorem map_name_partFields (shape : Shape) :
    shape.partFields.map Field.name = shape.partNames := by
  apply List.ext_getElem?
  intro place
  simp [partFields, partNames, Function.comp_def]

theorem map_origin_partFields (shape : Shape) :
    shape.partFields.map Field.origin = (List.range shape.arity).map .physical := by
  apply List.ext_getElem
  · simp
  · intro place _ _
    simp [partFields]

theorem map_type_partFields (shape : Shape) :
    shape.partFields.map Field.type = shape.parts.map Column.type := by
  apply List.ext_getElem?
  intro place
  simp [partFields, Function.comp_def]

theorem map_column_partFields (shape : Shape) :
    shape.partFields.map Field.column = shape.parts := by
  apply List.ext_getElem?
  intro place
  simp [partFields, Field.column, Function.comp_def]

theorem isPhysical_of_mem_partFields {shape : Shape} {field : Field}
    (member : field ∈ shape.partFields) : field.isPhysical = true := by
  obtain ⟨place, inside, rfl⟩ := List.mem_mapIdx.mp member
  rfl

theorem isGeneric_of_composite {shape : Shape} (composite : shape.isComposite = true) :
    shape.isGeneric = false := by
  obtain ⟨parts, positional, layout_eq⟩ := isComposite_eq_true_iff.mp composite
  simp only [isGeneric, layout_eq]

theorem naturalFields_of_composite {base : String} {shape : Shape}
    (composite : shape.isComposite = true) : shape.naturalFields base = shape.partFields := by
  obtain ⟨parts, positional, layout_eq⟩ := isComposite_eq_true_iff.mp composite
  simp only [naturalFields, layout_eq]

theorem isPhysical_of_mem_naturalFields {base : String} {shape : Shape} {field : Field}
    (member : field ∈ shape.naturalFields base) : field.isPhysical = true := by
  rw [naturalFields] at member
  split at member
  · obtain rfl := List.mem_singleton.mp member
    rfl
  · exact isPhysical_of_mem_partFields member

theorem checkAccessible_eq_ok_iff {shape : Shape} {result : Unit} :
    shape.checkAccessible = .ok result ↔ shape.declaration.isAccessible = true := by
  simp [checkAccessible]

/-- A shape without named parts is named by the fresh name, unless the base name is the star. -/
theorem fieldNames_of_lone {shape : Shape} {base : String} {taken : List String}
    (access : shape.checkAccessible = .ok ()) (lone : shape.isComposite = false)
    (named : base ≠ "*") : shape.fieldNames base taken = .ok [Names.fresh base taken] := by
  have starless : "*" ≠ Names.fresh base taken := (Names.fresh_ne_star named taken).symm
  obtain ⟨declaration, layout⟩ := shape
  cases layout with
  | composite parts positional => cases lone
  | atomic type => simp [fieldNames, access, starless]
  | generic => simp [fieldNames, access, starless]

section Known

variable {shape : Shape} (accessible : shape.declaration.isAccessible = true)
  (known : shape.isGeneric = false)
include accessible known

theorem fieldNames_eq (base : String) :
    shape.fieldNames base [] =
      if "*" ∈ (shape.naturalFields base).map Field.name then .error .starPart
      else .ok ((shape.naturalFields base).map Field.name) := by
  obtain ⟨declaration, layout⟩ := shape
  cases layout with
  | atomic type => simp [fieldNames, checkAccessible, accessible, naturalFields, Names.fresh]
  | composite parts positional =>
      have names_eq := map_name_partFields ⟨declaration, .composite parts positional⟩
      simp only [partNames, Shape.parts] at names_eq
      simp [fieldNames, checkAccessible, accessible, naturalFields, names_eq]
  | generic => cases known

theorem fieldTypes_eq (base : String) :
    shape.fieldTypes = .ok ((shape.naturalFields base).map Field.type) := by
  obtain ⟨declaration, layout⟩ := shape
  cases layout with
  | atomic type => simp [fieldTypes, checkAccessible, accessible, naturalFields]
  | composite parts positional =>
      have types_eq := map_type_partFields ⟨declaration, .composite parts positional⟩
      simp [fieldTypes, checkAccessible, accessible, naturalFields, types_eq, Shape.parts]
  | generic => cases known

omit accessible known in
theorem map_origin_naturalFields (base : String) :
    (shape.naturalFields base).map Field.origin =
      (List.range (shape.naturalFields base).length).map .physical := by
  rw [naturalFields]
  split
  · rfl
  · rw [map_origin_partFields, length_partFields]

end Known

end Shape

namespace Settings

/-- The schema of a shape as it is: its natural fields, unless the settings, the declaration or the
names forbid it. -/
theorem schemaOf_eq {settings : Settings} {shape : Shape} (known : shape.isGeneric = false) :
    settings.schemaOf shape = do
      settings.validate
      shape.checkAccessible
      let fields := shape.naturalFields settings.baseName
      if "*" ∈ fields.map Field.name then
        throw .starPart
      else
        Names.checkDistinct (fields.map Field.name)
        return { fields, hasRowtime := false } := by
  cases valid : settings.validate with
  | error fault => simp [schemaOf, valid]
  | ok result =>
      by_cases accessible : shape.declaration.isAccessible = true
      · have access : shape.checkAccessible = .ok () :=
          Shape.checkAccessible_eq_ok_iff.mpr accessible
        have names_eq := Shape.fieldNames_eq accessible known settings.baseName
        have types_eq := Shape.fieldTypes_eq accessible known settings.baseName
        by_cases star : "*" ∈ (shape.naturalFields settings.baseName).map Field.name
        · simp [schemaOf, valid, known, access, names_eq, star]
        · have places_eq : shape.fieldPlaces settings.baseName =
              .ok (List.range (shape.naturalFields settings.baseName).length) := by
            simp [Shape.fieldPlaces, names_eq, star]
          have schema_eq :=
            Schema.ofParts_map (shape.naturalFields settings.baseName) false
          rw [Shape.map_origin_naturalFields, Field.ofFields_of_physical
            fun field => Shape.isPhysical_of_mem_naturalFields] at schema_eq
          simp [schemaOf, valid, known, access, names_eq, places_eq, types_eq, star, schema_eq]
      · simp [schemaOf, valid, known, Shape.fieldNames, Shape.checkAccessible, accessible]

theorem schemaOf_of_generic {settings : Settings} {shape : Shape}
    (unknown : shape.isGeneric = true) :
    settings.schemaOf shape = settings.validate >>= fun _ => .error .unknownParts := by
  simp [schemaOf, unknown]

theorem schemaOf_of_composite {settings : Settings} {shape : Shape}
    (composite : shape.isComposite = true) :
    settings.schemaOf shape = do
      settings.validate
      shape.checkAccessible
      if "*" ∈ shape.partNames then
        throw .starPart
      else
        Names.checkDistinct shape.partNames
        return { fields := shape.partFields, hasRowtime := false } := by
  rw [schemaOf_eq (Shape.isGeneric_of_composite composite),
    Shape.naturalFields_of_composite composite]
  simp

/-- A composite shape without an obstacle is taken with all its parts. -/
theorem schemaOf_of_distinct {settings : Settings} {shape : Shape}
    (valid : settings.validate = .ok ()) (composite : shape.isComposite = true)
    (access : shape.checkAccessible = .ok ()) (starless : "*" ∉ shape.partNames)
    (distinct : shape.partNames.Nodup) :
    settings.schemaOf shape = .ok { fields := shape.partFields, hasRowtime := false } := by
  rw [schemaOf_of_composite composite, valid, access, Names.checkDistinct_of_nodup distinct]
  simp only [Outcome.ok_bind, starless, if_false, Outcome.pure_eq_ok]

theorem schemaOf_eq_ok_iff {settings : Settings} {shape : Shape} {schema : Schema} :
    settings.schemaOf shape = .ok schema ↔
      settings.validate = .ok () ∧ shape.isGeneric = false ∧
        shape.declaration.isAccessible = true ∧
        "*" ∉ (shape.naturalFields settings.baseName).map Field.name ∧
        ((shape.naturalFields settings.baseName).map Field.name).Nodup ∧
        schema = { fields := shape.naturalFields settings.baseName, hasRowtime := false } := by
  by_cases known : shape.isGeneric = true
  · simp [schemaOf_of_generic known, Outcome.then_eq_ok_iff, known]
  · rw [Bool.not_eq_true] at known
    simp only [schemaOf_eq known, Outcome.throw_eq_error, Outcome.then_eq_ok_iff,
      Outcome.refuse_eq_ok_iff, Shape.checkAccessible_eq_ok_iff, Names.checkDistinct_eq_ok_iff,
      Outcome.pure_eq_ok, Except.ok.injEq, known, true_and, @eq_comm _ schema]

end Settings
end Tabulate
