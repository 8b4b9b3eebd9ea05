import Tabulate.Proofs.Grant
import Tabulate.Proofs.Natural

/-!
# Derivations

A derivation without expressions takes the shape as it is.  With expressions, the settings and the
declaration are checked, then every expression is granted its field, and then the fields are checked
together; the constructor of schemas has nothing left to refuse.
-/

namespace Tabulate
namespace Shape

/-- References name the parts at their places in a positional shape none of whose parts they call
by name. -/
theorem readsByPlace_eq_true_iff {shape : Shape} {expressions : List Expression} :
    shape.readsByPlace expressions = true ↔
      shape.isPositional = true ∧
        ∀ name, .reference name ∈ expressions → name ∉ shape.partNames := by
  simp only [readsByPlace, Bool.and_eq_true, List.all_eq_true, Option.all_eq_true,
    Expression.reference?_eq_some_iff, Option.isNone_iff_eq_none, placeOf?_eq_none_iff]
  refine and_congr_right fun _ => ⟨?_, ?_⟩
  · intro absent name member
    exact absent _ member name rfl
  · rintro absent _ member name rfl
    exact absent name member

theorem resolve_of_composite {precision : UInt8} {shape : Shape} {expressions : List Expression}
    (composite : shape.isComposite = true) :
    shape.resolve precision expressions =
      if shape.readsByPlace expressions then shape.fieldsByPlace precision expressions
      else shape.fieldsByName precision expressions := by
  obtain ⟨parts, positional, layout_eq⟩ := isComposite_eq_true_iff.mp composite
  simp only [resolve, layout_eq]

theorem readsByPlace_of_not_isPositional {shape : Shape} {expressions : List Expression}
    (named : shape.isPositional = false) : shape.readsByPlace expressions = false := by
  simp [readsByPlace, named]

theorem resolve_byName {precision : UInt8} {shape : Shape} {expressions : List Expression}
    (composite : shape.isComposite = true) (byName : shape.readsByPlace expressions = false) :
    shape.resolve precision expressions = shape.fieldsByName precision expressions := by
  rw [resolve_of_composite composite, byName]
  rfl

end Shape

namespace Settings

theorem validate_eq_ok_iff {settings : Settings} {result : Unit} :
    settings.validate = .ok result ↔
      settings.baseName ≠ "" ∧ settings.baseName ≠ "*" ∧
        settings.precision ≤ greatestPrecision := by
  simp [validate, Outcome.refuse_eq_ok_iff, UInt8.not_lt]

theorem derive_nil (settings : Settings) (shape : Shape) :
    settings.derive shape [] = settings.schemaOf shape := by
  cases valid : settings.validate with
  | error fault => simp [derive, schemaOf, valid]
  | ok result => simp [derive, valid]

/-- Fields that pass the checks across fields are the fields of the derived schema. -/
theorem derive_of_ne_nil {settings : Settings} {shape : Shape} {expressions : List Expression}
    (asked : expressions ≠ []) :
    settings.derive shape expressions = do
      settings.validate
      shape.checkAccessible
      let fields ← shape.resolve settings.precision expressions
      let hasRowtime ← Field.checkAll fields
      return { fields, hasRowtime } := by
  have assembled : ∀ fields, (Field.checkAll fields >>= Schema.ofFields fields) =
      Field.checkAll fields >>= fun hasRowtime => pure { fields, hasRowtime } := by
    intro fields
    cases checked : Field.checkAll fields with
    | error fault => rfl
    | ok hasRowtime => exact Schema.ofFields_of_checkAll checked
  simp only [derive, List.isEmpty_iff, asked, if_false, assembled]

theorem derive_eq_ok_iff {settings : Settings} {shape : Shape} {expressions : List Expression}
    {schema : Schema} (asked : expressions ≠ []) :
    settings.derive shape expressions = .ok schema ↔
      settings.validate = .ok () ∧ shape.declaration.isAccessible = true ∧
        shape.resolve settings.precision expressions = .ok schema.fields ∧
        Field.checkAll schema.fields = .ok schema.hasRowtime := by
  rw [derive_of_ne_nil asked, Outcome.then_eq_ok_iff, Outcome.then_eq_ok_iff,
    Shape.checkAccessible_eq_ok_iff]
  refine and_congr_right fun _ => and_congr_right fun _ => ?_
  simp only [Outcome.bind_eq_ok_iff, Outcome.pure_eq_ok, Except.ok.injEq]
  constructor
  · rintro ⟨fields, resolved, hasRowtime, checked, rfl⟩
    exact ⟨resolved, checked⟩
  · rintro ⟨resolved, checked⟩
    exact ⟨schema.fields, resolved, schema.hasRowtime, checked, rfl⟩

/-- Nothing is derived under settings that are refused. -/
theorem validate_of_derive {settings : Settings} {shape : Shape} {expressions : List Expression}
    {schema : Schema} (derived : settings.derive shape expressions = .ok schema) :
    settings.validate = .ok () :=
  (Outcome.then_eq_ok_iff.mp derived).1

/-- Nothing is derived from a shape whose declaration is refused. -/
theorem isAccessible_of_derive {settings : Settings} {shape : Shape}
    {expressions : List Expression} {schema : Schema}
    (derived : settings.derive shape expressions = .ok schema) :
    shape.declaration.isAccessible = true := by
  cases expressions with
  | nil =>
      rw [derive_nil] at derived
      obtain ⟨-, -, accessible, -⟩ := schemaOf_eq_ok_iff.mp derived
      exact accessible
  | cons expression expressions =>
      obtain ⟨-, accessible, -⟩ := (derive_eq_ok_iff (List.cons_ne_nil _ _)).mp derived
      exact accessible

/-- Every derived schema passes the checks across fields, whether or not they were made. -/
theorem checkAll_of_derive {settings : Settings} {shape : Shape} {expressions : List Expression}
    {schema : Schema} (derived : settings.derive shape expressions = .ok schema) :
    Field.checkAll schema.fields = .ok schema.hasRowtime := by
  cases expressions with
  | nil =>
      rw [derive_nil] at derived
      obtain ⟨-, -, -, starless, distinct, rfl⟩ := schemaOf_eq_ok_iff.mp derived
      rw [Field.checkAll_of_physical fun _ => Shape.isPhysical_of_mem_naturalFields]
      simp [starless, Names.checkDistinct_of_nodup distinct]
  | cons expression expressions =>
      obtain ⟨-, -, -, checked⟩ := (derive_eq_ok_iff (List.cons_ne_nil _ _)).mp derived
      exact checked

theorem compatible_of_derive {settings : Settings} {shape : Shape}
    {expressions : List Expression} {schema : Schema}
    (derived : settings.derive shape expressions = .ok schema) :
    "*" ∉ schema.names ∧ Field.Compatible schema.fields := by
  obtain ⟨starless, compatible, -⟩ := Field.checkAll_eq_ok_iff.mp (checkAll_of_derive derived)
  exact ⟨starless, compatible⟩

/-- The fields of a derived schema decide its statement about the row-time attribute. -/
theorem eq_of_derive_of_fields_eq {left right : Settings} {leftShape rightShape : Shape}
    {leftExpressions rightExpressions : List Expression} {leftSchema rightSchema : Schema}
    (leftDerived : left.derive leftShape leftExpressions = .ok leftSchema)
    (rightDerived : right.derive rightShape rightExpressions = .ok rightSchema)
    (fields_eq : leftSchema.fields = rightSchema.fields) : leftSchema = rightSchema := by
  have leftChecked := checkAll_of_derive leftDerived
  have rightChecked := checkAll_of_derive rightDerived
  obtain ⟨fields, leftRowtime⟩ := leftSchema
  obtain ⟨_, rightRowtime⟩ := rightSchema
  subst fields_eq
  have flags_eq : leftRowtime = rightRowtime := Except.ok.inj (leftChecked.symm.trans rightChecked)
  exact congrArg (Schema.mk fields) flags_eq

end Settings
end Tabulate
