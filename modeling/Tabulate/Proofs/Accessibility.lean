import Tabulate.Proofs.Derive

/-!
# Inaccessible shapes

A shape is inaccessible if its declaration is tied to an instance, is not for everyone, or has no
name to speak of.  What is asked of such a shape under valid settings is refused with the fault of
its declaration, before anything else about the shape or the expressions is looked at.  One request
escapes this check: where a schema is derived without expressions, the guard against generic records
stands in front of it, so an inaccessible generic record is refused for its parts there, and for its
declaration everywhere else.
-/

namespace Tabulate

/-- The reasons why a type cannot be used from everywhere. -/
inductive Declaration.Hidden (declaration : Declaration) : Prop
  | inner (nested : declaration.nesting = .inner)
  | restricted (guarded : declaration.visibility ≠ .global)
  | anonymous (unnamed : declaration.name = none)
  | blank {name : String} (named : declaration.name = some name)
      (blank : ∀ character ∈ name.toList, Text.isBlank character = true)

/-- How everything that can be asked of a shape is refused. -/
structure Shape.Refused (settings : Settings) (shape : Shape) : Prop where
  /-- The check of the declaration finds it inaccessible. -/
  check_eq : shape.checkAccessible = .error (.inaccessible shape)
  /-- The author of the shape is to mend that. -/
  category_eq : (Fault.inaccessible shape).category = .structural
  /-- Names are refused, whatever names are taken. -/
  names_eq : ∀ taken, settings.fieldNames shape taken = .error (.inaccessible shape)
  /-- Types are refused. -/
  types_eq : shape.fieldTypes = .error (.inaccessible shape)
  /-- Places are refused. -/
  places_eq : settings.fieldPlaces shape = .error (.inaccessible shape)
  /-- A schema as some expressions ask is refused, whatever they are. -/
  derive_eq : ∀ expressions, expressions ≠ [] →
    settings.derive shape expressions = .error (.inaccessible shape)
  /-- The schema of a known shape is refused as well. -/
  schema_of_known : shape.isGeneric = false →
    settings.schemaOf shape = .error (.inaccessible shape) ∧
      settings.derive shape [] = .error (.inaccessible shape)
  /-- The schema of a generic record escapes the check, and is refused for its parts. -/
  schema_of_generic : shape.isGeneric = true →
    settings.schemaOf shape = .error .unknownParts ∧
      settings.derive shape [] = .error .unknownParts

namespace Declaration

theorem hasName_eq_false_iff {declaration : Declaration} :
    declaration.hasName = false ↔
      declaration.name = none ∨
        ∃ name, declaration.name = some name ∧
          ∀ character ∈ name.toList, Text.isBlank character = true := by
  cases named : declaration.name with
  | none => simp [hasName, named]
  | some name => simp [hasName, named, Text.isBlankText]

/-- A declaration is accessible unless there is a reason against it. -/
theorem isAccessible_eq_false_iff {declaration : Declaration} :
    declaration.isAccessible = false ↔ declaration.Hidden := by
  simp only [isAccessible, Bool.and_eq_false_iff, decide_eq_false_iff_not, ne_eq, not_not,
    hasName_eq_false_iff]
  constructor
  · rintro ((nested | guarded) | unnamed | ⟨name, named, blank⟩)
    · exact .inner nested
    · exact .restricted guarded
    · exact .anonymous unnamed
    · exact .blank named blank
  · rintro (nested | guarded | unnamed | ⟨named, blank⟩)
    · exact .inl (.inl nested)
    · exact .inl (.inr guarded)
    · exact .inr (.inl unnamed)
    · exact .inr (.inr ⟨_, named, blank⟩)

end Declaration

namespace Shape

theorem checkAccessible_of_hidden {shape : Shape} (hidden : shape.declaration.Hidden) :
    shape.checkAccessible = .error (.inaccessible shape) := by
  simp [checkAccessible, Declaration.isAccessible_eq_false_iff.mpr hidden]

/-- Rows of an unknown record that is tied to an instance. -/
def innerRecord : Shape where
  declaration := { name := some "Row", nesting := .inner }
  layout := .generic

/-- Rows of a pair whose name is blank. -/
def blankPair : Shape :=
  record { name := some " " } pair.parts

end Shape

namespace Settings

/-- A known shape is not taken as it is if its declaration is hidden. -/
theorem schemaOf_of_hidden {settings : Settings} {shape : Shape}
    (known : shape.isGeneric = false) (valid : settings.validate = .ok ())
    (hidden : shape.declaration.Hidden) :
    settings.schemaOf shape = .error (.inaccessible shape) := by
  rw [schemaOf_eq known, valid, Outcome.ok_bind, Shape.checkAccessible_of_hidden hidden,
    Outcome.error_bind]

/-- An inaccessible generic record that is taken as it is escapes the check of its declaration. -/
theorem schemaOf_innerRecord :
    validate {} = .ok () ∧ Shape.innerRecord.declaration.Hidden ∧
      Shape.innerRecord.checkAccessible = .error (.inaccessible .innerRecord) ∧
      schemaOf {} .innerRecord ≠ .error (.inaccessible .innerRecord) ∧
      derive {} .innerRecord [] ≠ .error (.inaccessible .innerRecord) := by
  refine ⟨rfl, .inner rfl, rfl, ?_, ?_⟩
  · intro equal
    cases equal
  · intro equal
    cases equal

/-- What is asked of an inaccessible shape is refused for its declaration, except that the schema of
a generic record as it is escapes the check. -/
theorem refused_of_hidden {settings : Settings} {shape : Shape}
    (valid : settings.validate = .ok ()) (hidden : shape.declaration.Hidden) :
    shape.Refused settings := by
  have check_eq := Shape.checkAccessible_of_hidden hidden
  have shapeNames_eq : ∀ taken,
      shape.fieldNames settings.baseName taken = .error (.inaccessible shape) := by
    intro taken
    rw [Shape.fieldNames, check_eq, Outcome.error_bind]
  constructor
  case check_eq => exact check_eq
  case category_eq => rfl
  case names_eq =>
    intro taken
    rw [fieldNames, valid, Outcome.ok_bind, shapeNames_eq]
  case types_eq => rw [Shape.fieldTypes, check_eq, Outcome.error_bind]
  case places_eq =>
    rw [fieldPlaces, valid, Outcome.ok_bind, Shape.fieldPlaces, shapeNames_eq, Outcome.error_bind]
  case derive_eq =>
    intro expressions asked
    rw [derive_of_ne_nil asked, valid, Outcome.ok_bind, check_eq, Outcome.error_bind]
  case schema_of_known =>
    intro known
    have schema_eq := schemaOf_of_hidden known valid hidden
    exact ⟨schema_eq, (derive_nil settings shape).trans schema_eq⟩
  case schema_of_generic =>
    intro generic
    have schema_eq : settings.schemaOf shape = .error .unknownParts := by
      rw [schemaOf_of_generic generic, valid, Outcome.ok_bind]
    exact ⟨schema_eq, (derive_nil settings shape).trans schema_eq⟩

/-- A blank name is refused, and so is an inner record. -/
theorem refused_of_hidden_pair :
    validate {} = .ok () ∧ Shape.blankPair.declaration.Hidden ∧ Shape.blankPair.Refused {} ∧
      Shape.innerRecord.declaration.Hidden ∧ Shape.innerRecord.Refused {} := by
  have valid : validate {} = .ok () := rfl
  have blank : Shape.blankPair.declaration.Hidden := by
    refine .blank rfl ?_
    intro character member
    obtain rfl : character = ' ' := List.mem_singleton.mp member
    rfl
  have inner : Shape.innerRecord.declaration.Hidden := .inner rfl
  exact ⟨valid, blank, refused_of_hidden valid blank, inner, refused_of_hidden valid inner⟩

end Settings
end Tabulate
