import Tabulate.Proofs.Overrides
import Tabulate.Proofs.Refusal

/-!
# The settings of a process

A process takes its settings from the environment.  Either every variable that is set is applied to
the defaults, or none is.  In both cases the settings are valid, so nothing that is asked under them
is ever refused for their sake.
-/

namespace Tabulate

open Outcome

/-- Settings that take over all overrides of the defaults, or none of them. -/
structure Overrides.AllOrNothing (overrides : Overrides) (chosen : Settings) : Prop where
  /-- Derivations may be made under the settings. -/
  valid : chosen.validate = .ok ()
  /-- Overrides that can be applied with a valid result are applied. -/
  eq_of_applied : ∀ settings, overrides.Applied {} settings → settings.validate = .ok () →
    chosen = settings
  /-- Overrides that cannot be applied, or whose result is refused, leave the defaults. -/
  eq_default : (∀ settings, overrides.Applied {} settings → settings.validate ≠ .ok ()) →
    chosen = {}
  /-- Settings that differ from the defaults at all differ by all overrides. -/
  applied_of_ne : chosen ≠ {} → overrides.Applied {} chosen

/-! ## Faults of other authors -/

/-- Whether someone else than the author of the settings is to mend a fault. -/
def Fault.IsOfOthers (fault : Fault) : Prop :=
  fault.category ≠ .configuration

theorem Fault.IsOfExpressions.isOfOthers {fault : Fault} (blamed : fault.IsOfExpressions) :
    fault.IsOfOthers := by
  intro configuration
  rw [IsOfExpressions, configuration] at blamed
  cases blamed

namespace Shape

theorem failsOnly_checkAccessible (shape : Shape) :
    FailsOnly Fault.IsOfOthers shape.checkAccessible :=
  .ite (failsOnly_ok ()) (failsOnly_error.mpr nofun)

theorem failsOnly_fieldNames (shape : Shape) (base : String) (taken : List String) :
    FailsOnly Fault.IsOfOthers (shape.fieldNames base taken) := by
  refine shape.failsOnly_checkAccessible.bind fun _ => ?_
  exact .ite (failsOnly_error.mpr nofun) (failsOnly_ok _)

theorem failsOnly_fieldTypes (shape : Shape) : FailsOnly Fault.IsOfOthers shape.fieldTypes :=
  shape.failsOnly_checkAccessible.bind fun _ => failsOnly_ok _

theorem failsOnly_fieldPlaces (shape : Shape) (base : String) :
    FailsOnly Fault.IsOfOthers (shape.fieldPlaces base) :=
  (shape.failsOnly_fieldNames base []).bind fun _ => failsOnly_ok _

end Shape

namespace Schema

theorem failsOnly_ofFields (fields : List Field) (hasRowtime : Bool) :
    FailsOnly Fault.IsOfOthers (ofFields fields hasRowtime) := by
  have distinct := (Names.failsOnly_checkDistinct (fields.map Field.name)).imp
    fun _ => Fault.IsOfExpressions.isOfOthers
  refine distinct.bind fun _ => ?_
  refine .ite (failsOnly_error.mpr nofun) (.ite (failsOnly_error.mpr nofun) ?_)
  exact .ite (failsOnly_error.mpr nofun) (failsOnly_ok _)

theorem failsOnly_ofParts (names : List String) (origins : List Origin) (types : List ColumnType)
    (hasRowtime : Bool) : FailsOnly Fault.IsOfOthers (ofParts names origins types hasRowtime) :=
  .ite (failsOnly_error.mpr nofun) (failsOnly_ofFields _ hasRowtime)

end Schema

namespace Settings

/-- Nothing that is asked under the settings is refused for their sake. -/
structure Blameless (settings : Settings) : Prop where
  fieldNames : ∀ shape taken, FailsOnly Fault.IsOfOthers (settings.fieldNames shape taken)
  fieldTypes : ∀ shape : Shape, FailsOnly Fault.IsOfOthers shape.fieldTypes
  fieldPlaces : ∀ shape, FailsOnly Fault.IsOfOthers (settings.fieldPlaces shape)
  schemaOf : ∀ shape, FailsOnly Fault.IsOfOthers (settings.schemaOf shape)
  derive : ∀ shape expressions, FailsOnly Fault.IsOfOthers (settings.derive shape expressions)

/-- Valid settings are not looked at again. -/
theorem failsOnly_behind_validate {α : Type} {settings : Settings} {rest : Except Fault α}
    (valid : settings.validate = .ok ()) (fails : FailsOnly Fault.IsOfOthers rest) :
    FailsOnly Fault.IsOfOthers (settings.validate >>= fun _ => rest) := by
  rw [valid, ok_bind]
  exact fails

variable {settings : Settings}

theorem failsOnly_schemaOf (valid : settings.validate = .ok ()) (shape : Shape) :
    FailsOnly Fault.IsOfOthers (settings.schemaOf shape) := by
  refine failsOnly_behind_validate valid (.ite (failsOnly_error.mpr nofun) ?_)
  refine (shape.failsOnly_fieldNames settings.baseName []).bind fun names => ?_
  refine (shape.failsOnly_fieldPlaces settings.baseName).bind fun places => ?_
  exact shape.failsOnly_fieldTypes.bind fun types => Schema.failsOnly_ofParts _ _ _ _

theorem failsOnly_derive (valid : settings.validate = .ok ()) (shape : Shape)
    (expressions : List Expression) :
    FailsOnly Fault.IsOfOthers (settings.derive shape expressions) := by
  by_cases asked : expressions = []
  · rw [asked, derive_nil]
    exact failsOnly_schemaOf valid shape
  · intro fault refused
    rcases derive_eq_error_cases asked refused with ⟨invalid, -⟩ | ⟨-, -, rfl⟩ | ⟨-, -, category⟩
    · rw [valid] at invalid
      cases invalid
    · exact nofun
    · exact Fault.IsOfExpressions.isOfOthers category

theorem blameless_of_validate (valid : settings.validate = .ok ()) : settings.Blameless where
  fieldNames shape taken := failsOnly_behind_validate valid (shape.failsOnly_fieldNames _ taken)
  fieldTypes := Shape.failsOnly_fieldTypes
  fieldPlaces shape := failsOnly_behind_validate valid (shape.failsOnly_fieldPlaces _)
  schemaOf := failsOnly_schemaOf valid
  derive := failsOnly_derive valid

/-! ## Choosing settings -/

variable {overrides : Overrides}

theorem ambient_of_overridden (overridden_eq : overridden {} overrides = .ok settings) :
    ambient overrides = settings := by
  rw [ambient, overridden_eq]

theorem ambient_of_refused (refused : ∀ settings, overridden {} overrides ≠ .ok settings) :
    ambient overrides = {} := by
  rw [ambient]
  split
  next settings overridden_eq => exact absurd overridden_eq (refused settings)
  next => rfl

/-- The settings of a process are the overridden defaults or the defaults. -/
theorem overridden_or_default (overrides : Overrides) :
    overridden {} overrides = .ok (ambient overrides) ∨ ambient overrides = {} := by
  rw [ambient]
  split
  next settings overridden_eq => exact .inl overridden_eq
  next => exact .inr rfl

/-- In every environment, the settings of a process are valid and take over all variables that are
set or none of them, and nothing that is asked under them is refused for their sake. -/
theorem allOrNothing_of_ambient (lookup : String → Option String) :
    (Overrides.ofEnvironment lookup).AllOrNothing (ambient (.ofEnvironment lookup)) ∧
      (ambient (.ofEnvironment lookup)).Blameless := by
  generalize Overrides.ofEnvironment lookup = overrides
  have valid : (ambient overrides).validate = .ok () := by
    rcases overridden_or_default overrides with overridden_eq | default_eq
    · exact (overridden_eq_ok_iff.mp overridden_eq).2
    · rw [default_eq]
      rfl
  refine ⟨?_, blameless_of_validate valid⟩
  constructor
  case valid => exact valid
  case eq_of_applied =>
    intro settings applied valid
    exact ambient_of_overridden (overridden_eq_ok_iff.mpr ⟨applied, valid⟩)
  case eq_default =>
    intro refused
    refine ambient_of_refused fun settings overridden_eq => ?_
    obtain ⟨applied, valid⟩ := overridden_eq_ok_iff.mp overridden_eq
    exact refused settings applied valid
  case applied_of_ne =>
    intro changed
    rcases overridden_or_default overrides with overridden_eq | default_eq
    · exact (overridden_eq_ok_iff.mp overridden_eq).1
    · exact absurd default_eq changed

/-- A base name is applied together with a precision, but not beside a word in the place of one.
The star spoils a precision that could be applied. -/
theorem allOrNothing_of_ambient_both :
    let environment := fun baseName precision key =>
      List.lookup key [(baseNameVariable, baseName), (precisionVariable, precision)]
    ambient (.ofEnvironment (environment "value" "+9 ")) = { baseName := "value", precision := 9 } ∧
      ambient (.ofEnvironment (environment "value" "nine")) = {} ∧
      ambient (.ofEnvironment (environment "*" "9")) = {} := by
  intro environment
  obtain ⟨both, -⟩ := allOrNothing_of_ambient (environment "value" "+9 ")
  obtain ⟨worded, -⟩ := allOrNothing_of_ambient (environment "value" "nine")
  obtain ⟨starred, -⟩ := allOrNothing_of_ambient (environment "*" "9")
  refine ⟨both.eq_of_applied _ ⟨rfl, ?_, nofun⟩ rfl, worded.eq_default ?_, starred.eq_default ?_⟩
  · rintro raw ⟨⟩
    exact readPrecision?_eq_some_iff.mp rfl
  · intro settings applied
    cases readPrecision?_eq_some_iff.mpr (applied.precision_of_some "nine" rfl)
  · intro settings applied valid
    obtain ⟨-, starless, -⟩ := validate_eq_ok_iff.mp valid
    exact absurd applied.baseName_eq starless

end Settings
end Tabulate
