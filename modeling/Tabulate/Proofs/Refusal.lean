import Tabulate.Proofs.Accessibility

/-!
# Refused derivations

Who has to mend a refused derivation with expressions depends on the stage that refuses it.  The
settings come first, then the declaration of the shape.  Behind these two checks only the author of
the expressions can be asked: no other fault of a shape and no fault of an assembled schema is ever
met.
-/

namespace Tabulate

/-! ## Faults of a sequence -/

namespace Outcome

variable {ε α β : Type} {expected : ε → Prop}

/-- Whatever fault an outcome has is an expected one. -/
def FailsOnly (expected : ε → Prop) (outcome : Except ε α) : Prop :=
  ∀ fault, outcome = .error fault → expected fault

@[simp]
theorem failsOnly_ok (value : α) : FailsOnly expected (.ok value : Except ε α) := by
  intro fault failed
  cases failed

@[simp]
theorem failsOnly_error {fault : ε} :
    FailsOnly expected (.error fault : Except ε α) ↔ expected fault := by
  constructor
  · intro fails
    exact fails fault rfl
  · rintro holds _ ⟨⟩
    exact holds

theorem FailsOnly.imp {weaker : ε → Prop} {outcome : Except ε α}
    (fails : FailsOnly expected outcome) (implies : ∀ fault, expected fault → weaker fault) :
    FailsOnly weaker outcome :=
  fun fault failed => implies fault (fails fault failed)

theorem FailsOnly.bind {first : Except ε α} {next : α → Except ε β}
    (first_fails : FailsOnly expected first)
    (next_fails : ∀ value, FailsOnly expected (next value)) :
    FailsOnly expected (first >>= next) := by
  cases first with
  | error fault => exact failsOnly_error.mpr (first_fails fault rfl)
  | ok value => exact next_fails value

theorem FailsOnly.ite {cause : Prop} [Decidable cause] {left right : Except ε α}
    (left_fails : FailsOnly expected left) (right_fails : FailsOnly expected right) :
    FailsOnly expected (if cause then left else right) := by
  split_ifs
  · exact left_fails
  · exact right_fails

/-- A traversal fails as one of its steps does. -/
theorem FailsOnly.mapM {step : α → Except ε β} {inputs : List α}
    (step_fails : ∀ input, FailsOnly expected (step input)) :
    FailsOnly expected (inputs.mapM step) := by
  induction inputs with
  | nil => exact failsOnly_ok []
  | cons input inputs ih =>
      rw [List.mapM_cons]
      refine (step_fails input).bind fun output => ih.bind fun outputs => ?_
      exact failsOnly_ok (output :: outputs)

end Outcome

open Outcome

/-- Whether the author of the expressions is to mend a fault. -/
def Fault.IsOfExpressions (fault : Fault) : Prop :=
  fault.category = .validation

/-! ## Faults of expressions -/

namespace Expression

theorem failsOnly_expectReference (expression : Expression) :
    FailsOnly Fault.IsOfExpressions expression.expectReference := by
  rw [expectReference]
  split
  · exact failsOnly_ok _
  · exact failsOnly_error.mpr rfl

/-- Naming a time attribute fails only if no plain reference stands where one must. -/
theorem failsOnly_named (inner : Expression) (field : String → Field) :
    FailsOnly Fault.IsOfExpressions do return field (← inner.expectReference) :=
  inner.failsOnly_expectReference.bind fun name => failsOnly_ok (field name)

end Expression

theorem ColumnType.failsOnly_checkRowtime (type : ColumnType) :
    FailsOnly Fault.IsOfExpressions type.checkRowtime :=
  .ite (failsOnly_ok ()) (failsOnly_error.mpr rfl)

namespace Shape

theorem failsOnly_partField (shape : Shape) (part name : String) :
    FailsOnly Fault.IsOfExpressions (shape.partField part name) := by
  rw [partField]
  split
  · exact failsOnly_ok _
  · exact failsOnly_error.mpr rfl

theorem failsOnly_rowtimeField (precision : UInt8) (shape : Shape) (inner : Expression)
    (name? : Option String) :
    FailsOnly Fault.IsOfExpressions (shape.rowtimeField precision inner name?) := by
  refine inner.failsOnly_expectReference.bind fun reference => ?_
  split
  · exact (ColumnType.failsOnly_checkRowtime _).bind fun _ => failsOnly_ok _
  · exact failsOnly_error.mpr rfl
  · exact failsOnly_ok _

theorem failsOnly_proctimeField (precision : UInt8) (shape : Shape) (inner : Expression)
    (name? : Option String) :
    FailsOnly Fault.IsOfExpressions (shape.proctimeField precision inner name?) := by
  refine inner.failsOnly_expectReference.bind fun reference => ?_
  exact .ite (failsOnly_error.mpr rfl) (failsOnly_ok _)

theorem failsOnly_checkBehind (shape : Shape) (place : Nat) (expression : Expression) :
    FailsOnly Fault.IsOfExpressions (shape.checkBehind place expression) :=
  .ite (failsOnly_error.mpr rfl) (failsOnly_ok ())

theorem failsOnly_checkReplaceable (shape : Shape) (place : Nat) :
    FailsOnly Fault.IsOfExpressions (shape.checkReplaceable place) := by
  rw [checkReplaceable]
  split
  · exact ColumnType.failsOnly_checkRowtime _
  · exact failsOnly_ok ()

end Shape

namespace Expression

theorem failsOnly_fieldByName (precision : UInt8) (shape : Shape) (expression : Expression) :
    FailsOnly Fault.IsOfExpressions (expression.fieldByName precision shape) := by
  rw [fieldByName.eq_def]
  split
  · exact shape.failsOnly_partField _ _
  · exact shape.failsOnly_partField _ _
  · exact shape.failsOnly_rowtimeField precision _ _
  · exact shape.failsOnly_proctimeField precision _ _
  · exact failsOnly_error.mpr rfl
  · exact shape.failsOnly_rowtimeField precision _ _
  · exact shape.failsOnly_proctimeField precision _ _
  · exact failsOnly_error.mpr rfl

theorem failsOnly_fieldByPlace (precision : UInt8) (shape : Shape) (place : Nat)
    (expression : Expression) :
    FailsOnly Fault.IsOfExpressions (expression.fieldByPlace precision shape place) := by
  rw [fieldByPlace.eq_def]
  split
  · split
    · exact failsOnly_ok _
    · exact failsOnly_error.mpr rfl
  · refine (shape.failsOnly_checkBehind place _).bind fun _ => ?_
    exact failsOnly_named _ fun _ => .ofProctime precision _
  · exact failsOnly_error.mpr rfl
  · exact (shape.failsOnly_checkReplaceable place).bind fun _ => failsOnly_named _ _
  · exact (shape.failsOnly_checkBehind place _).bind fun _ => failsOnly_named _ _
  · exact failsOnly_error.mpr rfl

theorem failsOnly_timeAttribute (precision : UInt8) (expression : Expression) :
    FailsOnly Fault.IsOfExpressions (expression.timeAttribute precision) := by
  rw [timeAttribute.eq_def]
  split
  · exact failsOnly_named _ _
  · exact failsOnly_named _ _
  · exact failsOnly_named _ fun _ => .ofRowtime precision _
  · exact failsOnly_named _ fun _ => .ofProctime precision _
  · exact failsOnly_error.mpr rfl

end Expression

theorem ColumnType.failsOnly_fieldsFrom (precision : UInt8) (type : ColumnType) (referred : Bool)
    (place : Nat) (expressions : List Expression) :
    FailsOnly Fault.IsOfExpressions (type.fieldsFrom precision referred place expressions) := by
  induction expressions generalizing referred place with
  | nil => exact failsOnly_ok []
  | cons expression expressions ih =>
      cases kind : expression.reference? with
      | none =>
          rw [fieldsFrom_cons kind]
          refine (expression.failsOnly_timeAttribute precision).bind fun field => ?_
          exact (ih referred (place + 1)).bind fun fields => failsOnly_ok (field :: fields)
      | some name =>
          obtain rfl := Expression.reference?_eq_some_iff.mp kind
          refine .ite (failsOnly_error.mpr rfl) ?_
          exact (ih true (place + 1)).bind fun fields => failsOnly_ok _

theorem Shape.failsOnly_resolve (precision : UInt8) (shape : Shape)
    (expressions : List Expression) :
    FailsOnly Fault.IsOfExpressions (shape.resolve precision expressions) := by
  rw [resolve]
  split
  · exact failsOnly_error.mpr rfl
  · exact ColumnType.failsOnly_fieldsFrom precision _ false 0 expressions
  · split
    · exact .mapM fun entry => entry.1.failsOnly_fieldByPlace precision shape entry.2
    · exact .mapM fun expression => expression.failsOnly_fieldByName precision shape

theorem Names.failsOnly_checkDistinct (names : List String) :
    FailsOnly Fault.IsOfExpressions (checkDistinct names) :=
  .ite (failsOnly_ok ()) (failsOnly_error.mpr rfl)

theorem Field.failsOnly_checkAll (fields : List Field) :
    FailsOnly Fault.IsOfExpressions (checkAll fields) := by
  refine .ite (failsOnly_error.mpr rfl) ?_
  refine (Names.failsOnly_checkDistinct _).bind fun _ => ?_
  refine .ite (failsOnly_error.mpr rfl) ?_
  exact .ite (failsOnly_error.mpr rfl) (failsOnly_ok _)

/-! ## Who is to mend what -/

/-- Who is to mend the outcome of a derivation with expressions. -/
structure Shape.Attributed (settings : Settings) (shape : Shape) (outcome : Except Fault Schema) :
    Prop where
  /-- The author of the settings is, exactly if the settings are refused. -/
  settings_iff : (∃ fault, outcome = .error fault ∧ fault.category = .configuration) ↔
    settings.validate ≠ .ok ()
  /-- The author of the shape is, exactly if the settings pass and the shape is inaccessible. -/
  shape_iff : (∃ fault, outcome = .error fault ∧ fault.category = .structural) ↔
    settings.validate = .ok () ∧ shape.checkAccessible ≠ .ok ()
  /-- In every other case there is a schema, or the author of the expressions is. -/
  expressions_of_accessible : settings.validate = .ok () → shape.checkAccessible = .ok () →
    (∃ schema, outcome = .ok schema) ∨
      ∃ fault, outcome = .error fault ∧ fault.category = .validation
  /-- Refused settings are refused with their own fault. -/
  settings_eq : ∀ fault, settings.validate = .error fault → outcome = .error fault
  /-- Of a shape, nothing but its declaration is refused. -/
  shape_eq : ∀ fault, outcome = .error fault → fault.category = .structural →
    fault = .inaccessible shape
  /-- The names of the parts are not searched for a star. -/
  starPart_ne : outcome ≠ .error .starPart
  /-- A schema is not assembled from lists of different lengths. -/
  lengthMismatch_ne : ∀ names origins types, outcome ≠ .error (.lengthMismatch names origins types)
  /-- A schema is not assembled with a false statement about its row-time attribute. -/
  rowtimeFlag_ne : ∀ stated count, outcome ≠ .error (.rowtimeFlag stated count)
  /-- An accessible record of unknown parts is refused for its parts. -/
  unknownParts_eq : settings.validate = .ok () → shape.checkAccessible = .ok () →
    shape.isGeneric = true →
      outcome = .error .unknownParts ∧ Fault.unknownParts.category = .validation

namespace Shape

/-- Rows of an unknown record that may be used from everywhere. -/
def openRecord : Shape where
  declaration := { name := some "Row" }
  layout := .generic

theorem checkAccessible_eq_error_iff {shape : Shape} {fault : Fault} :
    shape.checkAccessible = .error fault ↔
      shape.checkAccessible ≠ .ok () ∧ fault = .inaccessible shape := by
  by_cases accessible : shape.declaration.isAccessible = true
  · simp [checkAccessible, accessible]
  · simp [checkAccessible, accessible, eq_comm]

/-- A record of unknown parts cannot be resolved, whatever is asked of it. -/
theorem resolve_of_generic {shape : Shape} (generic : shape.isGeneric = true) (precision : UInt8)
    (expressions : List Expression) :
    shape.resolve precision expressions = .error .unknownParts := by
  obtain ⟨declaration, layout⟩ := shape
  cases layout with
  | atomic type => cases generic
  | composite parts positional => cases generic
  | generic => rfl

end Shape

namespace Settings

variable {settings : Settings} {shape : Shape} {expressions : List Expression} {fault : Fault}

theorem failsOnly_validate (settings : Settings) :
    FailsOnly (fun fault => fault.category = .configuration) settings.validate := by
  refine .ite (failsOnly_error.mpr rfl) (.ite (failsOnly_error.mpr rfl) ?_)
  exact .ite (failsOnly_error.mpr rfl) (failsOnly_ok ())

/-- A derivation with expressions is refused by the settings, by the declaration of the shape, or
for the expressions. -/
theorem derive_eq_error_cases (asked : expressions ≠ [])
    (refused : settings.derive shape expressions = .error fault) :
    settings.validate = .error fault ∧ fault.category = .configuration ∨
      settings.validate = .ok () ∧ shape.checkAccessible ≠ .ok () ∧ fault = .inaccessible shape ∨
      settings.validate = .ok () ∧ shape.checkAccessible = .ok () ∧
        fault.category = .validation := by
  rw [derive_of_ne_nil asked] at refused
  cases valid : settings.validate with
  | error found =>
      rw [valid, error_bind, Except.error.injEq] at refused
      exact .inl ⟨refused ▸ rfl, refused ▸ settings.failsOnly_validate found valid⟩
  | ok _ =>
      rw [valid, ok_bind] at refused
      cases access : shape.checkAccessible with
      | error found =>
          obtain ⟨hidden, rfl⟩ := Shape.checkAccessible_eq_error_iff.mp access
          rw [access, error_bind, Except.error.injEq] at refused
          exact .inr (.inl ⟨rfl, access ▸ hidden, refused.symm⟩)
      | ok _ =>
          rw [access, ok_bind] at refused
          have fails : FailsOnly Fault.IsOfExpressions do
              let fields ← shape.resolve settings.precision expressions
              let hasRowtime ← Field.checkAll fields
              return ({ fields, hasRowtime } : Schema) :=
            (shape.failsOnly_resolve _ _).bind fun fields =>
              (Field.failsOnly_checkAll fields).bind fun hasRowtime => failsOnly_ok _
          exact .inr (.inr ⟨rfl, rfl, fails fault refused⟩)

/-- Refused settings, a refused declaration and refused expressions are told apart by the category
of the fault, and no fault of another stage is ever met.  Faults of files and of texts are no faults
of a derivation at all. -/
theorem attributed_of_derive (asked : expressions ≠ []) :
    shape.Attributed settings (settings.derive shape expressions) := by
  have unchecked : ∀ fault, settings.validate = .error fault →
      settings.derive shape expressions = .error fault := by
    intro fault refused
    rw [derive_of_ne_nil asked, refused, error_bind]
  have structural_eq : ∀ fault, settings.derive shape expressions = .error fault →
      fault.category = .structural →
        settings.validate = .ok () ∧ shape.checkAccessible ≠ .ok () ∧
          fault = .inaccessible shape := by
    intro fault refused structural
    rcases derive_eq_error_cases asked refused with ⟨-, other⟩ | found | ⟨-, -, other⟩
    · rw [structural] at other
      cases other
    · exact found
    · rw [structural] at other
      cases other
  have absent : ∀ fault, fault.category = .structural → (∀ other, fault ≠ .inaccessible other) →
      settings.derive shape expressions ≠ .error fault := by
    intro fault structural internal refused
    exact internal shape (structural_eq fault refused structural).2.2
  constructor
  case settings_iff =>
    constructor
    · rintro ⟨fault, refused, category⟩ valid
      rcases derive_eq_error_cases asked refused with ⟨invalid, -⟩ | ⟨-, -, rfl⟩ | ⟨-, -, other⟩
      · rw [valid] at invalid
        cases invalid
      · cases category
      · rw [category] at other
        cases other
    · intro invalid
      cases refused : settings.validate with
      | ok _ => exact absurd refused invalid
      | error fault =>
          exact ⟨fault, unchecked fault refused, settings.failsOnly_validate fault refused⟩
  case shape_iff =>
    constructor
    · rintro ⟨fault, refused, structural⟩
      obtain ⟨valid, hidden, -⟩ := structural_eq fault refused structural
      exact ⟨valid, hidden⟩
    · rintro ⟨valid, hidden⟩
      have access := Shape.checkAccessible_eq_error_iff.mpr ⟨hidden, rfl⟩
      refine ⟨.inaccessible shape, ?_, rfl⟩
      rw [derive_of_ne_nil asked, valid, ok_bind, access, error_bind]
  case expressions_of_accessible =>
    intro valid access
    cases outcome_eq : settings.derive shape expressions with
    | ok schema => exact .inl ⟨schema, rfl⟩
    | error fault =>
        rcases derive_eq_error_cases asked outcome_eq with
          ⟨invalid, -⟩ | ⟨-, hidden, -⟩ | ⟨-, -, category⟩
        · rw [valid] at invalid
          cases invalid
        · exact absurd access hidden
        · exact .inr ⟨fault, rfl, category⟩
  case settings_eq => exact unchecked
  case shape_eq =>
    intro fault refused structural
    exact (structural_eq fault refused structural).2.2
  case starPart_ne => exact absent _ rfl nofun
  case lengthMismatch_ne =>
    intro names origins types
    exact absent _ rfl nofun
  case rowtimeFlag_ne =>
    intro stated count
    exact absent _ rfl nofun
  case unknownParts_eq =>
    intro valid access generic
    refine ⟨?_, rfl⟩
    rw [derive_of_ne_nil asked, valid, ok_bind, access, ok_bind,
      Shape.resolve_of_generic generic, error_bind]

/-- One expression meets refused settings, a hidden declaration, unknown parts and a missing part,
in this order of precedence. -/
theorem attributed_of_derive_reference :
    [Expression.reference "id"] ≠ [] ∧
      Shape.innerRecord.Attributed { baseName := "*" }
        (derive { baseName := "*" } .innerRecord [.reference "id"]) ∧
      Shape.innerRecord.Attributed {} (derive {} .innerRecord [.reference "id"]) ∧
      Shape.openRecord.Attributed {} (derive {} .openRecord [.reference "id"]) ∧
      Shape.pair.Attributed {} (derive {} .pair [.reference "id"]) := by
  have asked : [Expression.reference "id"] ≠ [] := List.cons_ne_nil _ _
  exact ⟨asked, attributed_of_derive asked, attributed_of_derive asked, attributed_of_derive asked,
    attributed_of_derive asked⟩

end Settings
end Tabulate
