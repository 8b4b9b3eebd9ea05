import Tabulate.Proofs.Derive

/-!
# Derivations under different settings

Two derivations that differ in their settings alone go side by side.  At each step both are granted
a field or both are refused with the same fault, and what they are granted differs in the precision
of time attributes at most.  The checks across fields do not look at the precision, so both
derivations have a schema or neither has one.  The base name for lone values is never looked at,
once some expressions are asked.
-/

namespace Tabulate

/-! ## Related outcomes -/

namespace Outcome

variable {ε α β γ δ : Type} {faults : ε → ε → Prop} {values : α → β → Prop}
  {results : γ → δ → Prop}

/-- Two outcomes are both values or both faults, and these are related. -/
inductive Related (faults : ε → ε → Prop) (values : α → β → Prop) :
    Except ε α → Except ε β → Prop
  | ok {left : α} {right : β} (related : values left right) :
      Related faults values (.ok left) (.ok right)
  | error {left right : ε} (related : faults left right) :
      Related faults values (.error left) (.error right)

namespace Related

theorem imp {weakerFaults : ε → ε → Prop} {weakerValues : α → β → Prop} {left : Except ε α}
    {right : Except ε β} (related : Related faults values left right)
    (faults_imp : ∀ left right, faults left right → weakerFaults left right)
    (values_imp : ∀ left right, values left right → weakerValues left right) :
    Related weakerFaults weakerValues left right := by
  cases related with
  | ok related => exact .ok (values_imp _ _ related)
  | error related => exact .error (faults_imp _ _ related)

/-- Sequences are related if their first steps are, and if related values lead on to related
outcomes. -/
theorem bind {left : Except ε α} {right : Except ε β} {leftNext : α → Except ε γ}
    {rightNext : β → Except ε δ} (first : Related faults values left right)
    (next : ∀ leftValue rightValue, values leftValue rightValue →
      Related faults results (leftNext leftValue) (rightNext rightValue)) :
    Related faults results (left >>= leftNext) (right >>= rightNext) := by
  cases first with
  | ok related => exact next _ _ related
  | error related => exact .error related

/-- A first step that both sequences share has one outcome. -/
theorem bind_same {first : Except ε α} {leftNext : α → Except ε γ} {rightNext : α → Except ε δ}
    (reflexive : ∀ fault, faults fault fault)
    (next : ∀ value, Related faults results (leftNext value) (rightNext value)) :
    Related faults results (first >>= leftNext) (first >>= rightNext) := by
  cases first with
  | ok value => exact next value
  | error fault => exact .error (reflexive fault)

theorem ite {cause : Prop} [Decidable cause] {left leftElse : Except ε α}
    {right rightElse : Except ε β} (present : Related faults values left right)
    (absent : Related faults values leftElse rightElse) :
    Related faults values (if cause then left else leftElse)
      (if cause then right else rightElse) := by
  split_ifs
  · exact present
  · exact absent

/-- Traversals of one list are related if their steps are. -/
theorem mapM {leftStep : γ → Except ε α} {rightStep : γ → Except ε β} {inputs : List γ}
    (steps : ∀ input, Related faults values (leftStep input) (rightStep input)) :
    Related faults (List.Forall₂ values) (inputs.mapM leftStep) (inputs.mapM rightStep) := by
  induction inputs with
  | nil => exact .ok .nil
  | cons input inputs ih =>
      rw [List.mapM_cons, List.mapM_cons]
      refine (steps input).bind fun left right head => ?_
      exact ih.bind fun lefts rights tail => .ok (.cons head tail)

end Related
end Outcome

open Outcome

/-! ## Counterparts -/

/-- One field under two precisions: a value of the input is the same, and a time attribute has its
own precision on each side. -/
inductive Field.Counterparts (left right : UInt8) : Field → Field → Prop
  | physical {name : String} {place : Nat} {type : ColumnType} :
      Counterparts left right { name, origin := .physical place, type }
        { name, origin := .physical place, type }
  | rowtime {name : String} :
      Counterparts left right (.ofRowtime left name) (.ofRowtime right name)
  | proctime {name : String} :
      Counterparts left right (.ofProctime left name) (.ofProctime right name)

/-- One fault under two precisions: only lists of time attributes can differ. -/
inductive Fault.Counterparts (left right : UInt8) : Fault → Fault → Prop
  | same (fault : Fault) : Counterparts left right fault fault
  | rowtimesRepeated {leftFields rightFields : List Field}
      (fields : List.Forall₂ (Field.Counterparts left right) leftFields rightFields) :
      Counterparts left right (.rowtimesRepeated leftFields) (.rowtimesRepeated rightFields)
  | proctimesRepeated {leftFields rightFields : List Field}
      (fields : List.Forall₂ (Field.Counterparts left right) leftFields rightFields) :
      Counterparts left right (.proctimesRepeated leftFields) (.proctimesRepeated rightFields)

/-- One schema under two precisions. -/
structure Schema.Counterparts (left right : UInt8) (leftSchema rightSchema : Schema) : Prop where
  fields : List.Forall₂ (Field.Counterparts left right) leftSchema.fields rightSchema.fields
  hasRowtime_eq : leftSchema.hasRowtime = rightSchema.hasRowtime

variable {left right : UInt8}

namespace Field.Counterparts

variable {leftField rightField : Field}

theorem name_eq (counterparts : Field.Counterparts left right leftField rightField) :
    leftField.name = rightField.name := by
  cases counterparts <;> rfl

theorem origin_eq (counterparts : Field.Counterparts left right leftField rightField) :
    leftField.origin = rightField.origin := by
  cases counterparts <;> rfl

theorem isRowtime_eq (counterparts : Field.Counterparts left right leftField rightField) :
    leftField.isRowtime = rightField.isRowtime := by
  cases counterparts <;> rfl

theorem isProctime_eq (counterparts : Field.Counterparts left right leftField rightField) :
    leftField.isProctime = rightField.isProctime := by
  cases counterparts <;> rfl

end Field.Counterparts

theorem Fault.Counterparts.category_eq {leftFault rightFault : Fault}
    (counterparts : Fault.Counterparts left right leftFault rightFault) :
    leftFault.category = rightFault.category := by
  cases counterparts <;> rfl

/-! ## Granted fields -/

namespace Expression

/-- The time attributes that one reference names are counterparts. -/
theorem related_named {leftMake rightMake : String → Field} (inner : Expression)
    (counterparts : ∀ name, Field.Counterparts left right (leftMake name) (rightMake name)) :
    Related Eq (Field.Counterparts left right) (do return leftMake (← inner.expectReference))
      (do return rightMake (← inner.expectReference)) :=
  .bind_same (fun _ => rfl) fun name => .ok (counterparts name)

end Expression

namespace Shape

theorem related_partField (shape : Shape) (part name : String) :
    Related Eq (Field.Counterparts left right) (shape.partField part name)
      (shape.partField part name) := by
  rw [partField]
  split
  · exact .ok .physical
  · exact .error rfl

theorem related_rowtimeField (shape : Shape) (inner : Expression) (name? : Option String) :
    Related Eq (Field.Counterparts left right) (shape.rowtimeField left inner name?)
      (shape.rowtimeField right inner name?) := by
  refine .bind_same (fun _ => rfl) fun reference => ?_
  split
  · exact .bind_same (fun _ => rfl) fun _ => .ok .rowtime
  · exact .error rfl
  · exact .ok .rowtime

theorem related_proctimeField (shape : Shape) (inner : Expression) (name? : Option String) :
    Related Eq (Field.Counterparts left right) (shape.proctimeField left inner name?)
      (shape.proctimeField right inner name?) :=
  .bind_same (fun _ => rfl) fun _ => .ite (.error rfl) (.ok .proctime)

end Shape

namespace Expression

theorem related_fieldByName (shape : Shape) (expression : Expression) :
    Related Eq (Field.Counterparts left right) (expression.fieldByName left shape)
      (expression.fieldByName right shape) := by
  cases expression with
  | reference name => exact shape.related_partField name name
  | renamed inner name =>
      cases inner with
      | reference part => exact shape.related_partField part name
      | rowtime inner => exact shape.related_rowtimeField inner (some name)
      | proctime inner => exact shape.related_proctimeField inner (some name)
      | renamed inner other => exact .error rfl
      | unsupported description => exact .error rfl
  | rowtime inner => exact shape.related_rowtimeField inner none
  | proctime inner => exact shape.related_proctimeField inner none
  | unsupported description => exact .error rfl

theorem related_fieldByPlace (shape : Shape) (place : Nat) (expression : Expression) :
    Related Eq (Field.Counterparts left right) (expression.fieldByPlace left shape place)
      (expression.fieldByPlace right shape place) := by
  cases expression with
  | reference name =>
      simp only [fieldByPlace]
      split
      · exact .ok .physical
      · exact .error rfl
  | renamed inner name =>
      cases inner with
      | proctime inner =>
          refine .bind_same (fun _ => rfl) fun _ => ?_
          exact inner.related_named fun _ => .proctime
      | reference part => exact .error rfl
      | rowtime inner => exact .error rfl
      | renamed inner other => exact .error rfl
      | unsupported description => exact .error rfl
  | rowtime inner =>
      exact .bind_same (fun _ => rfl) fun _ => inner.related_named fun _ => .rowtime
  | proctime inner =>
      exact .bind_same (fun _ => rfl) fun _ => inner.related_named fun _ => .proctime
  | unsupported description => exact .error rfl

theorem related_timeAttribute (expression : Expression) :
    Related Eq (Field.Counterparts left right) (expression.timeAttribute left)
      (expression.timeAttribute right) := by
  cases expression with
  | reference name => exact .error rfl
  | renamed inner name =>
      cases inner with
      | rowtime inner => exact inner.related_named fun _ => .rowtime
      | proctime inner => exact inner.related_named fun _ => .proctime
      | reference part => exact .error rfl
      | renamed inner other => exact .error rfl
      | unsupported description => exact .error rfl
  | rowtime inner => exact inner.related_named fun _ => .rowtime
  | proctime inner => exact inner.related_named fun _ => .proctime
  | unsupported description => exact .error rfl

end Expression

theorem ColumnType.related_fieldsFrom (type : ColumnType) (referred : Bool) (place : Nat)
    (expressions : List Expression) :
    Related Eq (List.Forall₂ (Field.Counterparts left right))
      (type.fieldsFrom left referred place expressions)
      (type.fieldsFrom right referred place expressions) := by
  induction expressions generalizing referred place with
  | nil => exact .ok .nil
  | cons expression expressions ih =>
      cases kind : expression.reference? with
      | none =>
          rw [fieldsFrom_cons kind, fieldsFrom_cons kind]
          refine expression.related_timeAttribute.bind fun leftField rightField head => ?_
          exact (ih referred (place + 1)).bind fun _ _ tail => .ok (.cons head tail)
      | some name =>
          obtain rfl := Expression.reference?_eq_some_iff.mp kind
          refine .ite (.error rfl) ?_
          exact (ih true (place + 1)).bind fun _ _ tail => .ok (.cons .physical tail)

/-- The precision decides neither how expressions are read nor which of them are refused. -/
theorem Shape.related_resolve (shape : Shape) (expressions : List Expression) :
    Related Eq (List.Forall₂ (Field.Counterparts left right)) (shape.resolve left expressions)
      (shape.resolve right expressions) := by
  obtain ⟨declaration, layout⟩ := shape
  cases layout with
  | generic => exact .error rfl
  | atomic type => exact type.related_fieldsFrom false 0 expressions
  | composite parts positional =>
      rw [resolve_of_composite rfl, resolve_of_composite rfl]
      refine .ite ?_ ?_
      · exact .mapM fun entry => entry.1.related_fieldByPlace _ entry.2
      · exact .mapM fun expression => expression.related_fieldByName _

/-! ## Checked fields -/

/-- The checks across fields pass counterparts alike. -/
theorem Field.related_checkAll {leftFields rightFields : List Field}
    (related : List.Forall₂ (Field.Counterparts left right) leftFields rightFields) :
    Related (Fault.Counterparts left right) Eq (checkAll leftFields) (checkAll rightFields) := by
  have names_eq := map_eq_of_forall₂ related fun _ _ => Field.Counterparts.name_eq
  have rowtimes : List.Forall₂ (Field.Counterparts left right)
      (leftFields.filter Field.isRowtime) (rightFields.filter Field.isRowtime) :=
    List.rel_filter (fun _ _ counterparts => Bool.eq_iff_iff.mp counterparts.isRowtime_eq) related
  have proctimes : List.Forall₂ (Field.Counterparts left right)
      (leftFields.filter Field.isProctime) (rightFields.filter Field.isProctime) :=
    List.rel_filter (fun _ _ counterparts => Bool.eq_iff_iff.mp counterparts.isProctime_eq) related
  -- The checks look at names and at numbers of time attributes; the attributes are only reported.
  simp only [checkAll, names_eq, rowtimes.length_eq, proctimes.length_eq]
  refine .ite (.error (.same _)) (.bind_same .same fun _ => ?_)
  refine .ite (.error (.rowtimesRepeated rowtimes)) ?_
  exact .ite (.error (.proctimesRepeated proctimes)) (.ok rfl)

/-! ## Derived schemas -/

/-- What two schemas have in common that were derived under different settings. -/
structure Schema.Agree (left right : UInt8) (leftSchema rightSchema : Schema) : Prop where
  names_eq : leftSchema.names = rightSchema.names
  origins_eq : leftSchema.origins = rightSchema.origins
  hasRowtime_eq : leftSchema.hasRowtime = rightSchema.hasRowtime
  /-- A physical field has one type. -/
  type_of_physical : ∀ (index place : Nat),
    leftSchema.origins[index]? = some (.physical place) →
      leftSchema.types[index]? = rightSchema.types[index]?
  /-- A row-time attribute has the precision of the settings on each side. -/
  type_of_rowtime : ∀ index : Nat, leftSchema.origins[index]? = some .rowtime →
    leftSchema.types[index]? = some (.timestamp left .rowtime) ∧
      rightSchema.types[index]? = some (.timestamp right .rowtime)
  /-- A proc-time attribute has the precision of the settings on each side. -/
  type_of_proctime : ∀ index : Nat, leftSchema.origins[index]? = some .proctime →
    leftSchema.types[index]? = some (.timestamp left .proctime) ∧
      rightSchema.types[index]? = some (.timestamp right .proctime)

namespace Schema.Counterparts

variable {leftSchema rightSchema : Schema}

/-- At one index stand the origin of a field and the types of the field and its counterpart. -/
theorem exists_field_of_origin (counterparts : Counterparts left right leftSchema rightSchema)
    {index : Nat} {origin : Origin} (marked : leftSchema.origins[index]? = some origin) :
    ∃ leftField rightField, Field.Counterparts left right leftField rightField ∧
      leftField.origin = origin ∧ leftSchema.types[index]? = some leftField.type ∧
      rightSchema.types[index]? = some rightField.type := by
  rw [origins, List.getElem?_map, Option.map_eq_some_iff] at marked
  obtain ⟨leftField, found, origin_eq⟩ := marked
  obtain ⟨rightField, rightFound, related⟩ :=
    exists_getElem?_of_forall₂ counterparts.fields found
  refine ⟨leftField, rightField, related, origin_eq, ?_, ?_⟩
  · rw [types, List.getElem?_map, found, Option.map_some]
  · rw [types, List.getElem?_map, rightFound, Option.map_some]

theorem agree (counterparts : Counterparts left right leftSchema rightSchema) :
    Agree left right leftSchema rightSchema where
  names_eq := map_eq_of_forall₂ counterparts.fields fun _ _ => Field.Counterparts.name_eq
  origins_eq := map_eq_of_forall₂ counterparts.fields fun _ _ => Field.Counterparts.origin_eq
  hasRowtime_eq := counterparts.hasRowtime_eq
  type_of_physical := by
    intro index place marked
    obtain ⟨leftField, rightField, related, origin_eq, left_eq, right_eq⟩ :=
      counterparts.exists_field_of_origin marked
    cases related with
    | physical => rw [left_eq, right_eq]
    | rowtime => cases origin_eq
    | proctime => cases origin_eq
  type_of_rowtime := by
    intro index marked
    obtain ⟨leftField, rightField, related, origin_eq, left_eq, right_eq⟩ :=
      counterparts.exists_field_of_origin marked
    cases related with
    | physical => cases origin_eq
    | rowtime => exact ⟨left_eq, right_eq⟩
    | proctime => cases origin_eq
  type_of_proctime := by
    intro index marked
    obtain ⟨leftField, rightField, related, origin_eq, left_eq, right_eq⟩ :=
      counterparts.exists_field_of_origin marked
    cases related with
    | physical => cases origin_eq
    | rowtime => cases origin_eq
    | proctime => exact ⟨left_eq, right_eq⟩

end Schema.Counterparts

namespace Settings

section Valid

variable {left right : Settings} {shape : Shape} {expressions : List Expression}
  (leftValid : left.validate = .ok ()) (rightValid : right.validate = .ok ())
include leftValid rightValid

/-- Under valid settings, the same expressions have counterparts as their outcomes. -/
theorem related_derive (asked : expressions ≠ []) :
    Related (Fault.Counterparts left.precision right.precision)
      (Schema.Counterparts left.precision right.precision)
      (left.derive shape expressions) (right.derive shape expressions) := by
  rw [derive_of_ne_nil asked, derive_of_ne_nil asked, leftValid, rightValid]
  refine .bind_same .same fun _ => .bind_same .same fun _ => ?_
  have resolved : Related (Fault.Counterparts left.precision right.precision)
      (List.Forall₂ (Field.Counterparts left.precision right.precision))
      (shape.resolve left.precision expressions) (shape.resolve right.precision expressions) :=
    (shape.related_resolve expressions).imp (fun leftFault _ same => same ▸ .same leftFault)
      fun _ _ related => related
  refine resolved.bind fun leftFields rightFields fields => ?_
  exact (Field.related_checkAll fields).bind fun _ _ flags_eq => .ok ⟨fields, flags_eq⟩

/-- A composite shape that is taken as it is has one outcome under all valid settings. -/
theorem derive_nil_eq (composite : shape.isComposite = true) :
    left.derive shape [] = right.derive shape [] := by
  rw [derive_nil, derive_nil, schemaOf_of_composite composite, schemaOf_of_composite composite,
    leftValid, rightValid]

/-- Valid settings decide the precision of time attributes and nothing else. -/
theorem agree_of_validate (shape : Shape) (expressions : List Expression) :
    (expressions ≠ [] →
      Related (fun leftFault rightFault => leftFault.category = rightFault.category)
        (Schema.Agree left.precision right.precision)
        (left.derive shape expressions) (right.derive shape expressions)) ∧
      (shape.isComposite = true → left.derive shape [] = right.derive shape []) := by
  constructor
  · intro asked
    exact (related_derive leftValid rightValid asked).imp
      (fun _ _ => Fault.Counterparts.category_eq) fun _ _ => Schema.Counterparts.agree
  · exact derive_nil_eq leftValid rightValid

end Valid

/-- Settings with another base name and the greatest precision. -/
def precise : Settings where
  baseName := "value"
  precision := 9

/-- A row-time attribute in place of a part has each precision, and two of them are refused under
both. -/
theorem agree_of_validate_precise :
    validate {} = .ok () ∧ precise.validate = .ok () ∧ Shape.pair.isComposite = true ∧
      (∃ leftSchema rightSchema,
        derive {} .pair [.reference "f1", .rowtime (.reference "f0")] = .ok leftSchema ∧
          precise.derive .pair [.reference "f1", .rowtime (.reference "f0")] = .ok rightSchema ∧
          leftSchema ≠ rightSchema ∧ Schema.Agree 3 9 leftSchema rightSchema) ∧
      (∃ leftFault rightFault,
        derive {} .amount [.rowtime (.reference "a"), .rowtime (.reference "b")] =
            .error leftFault ∧
          precise.derive .amount [.rowtime (.reference "a"), .rowtime (.reference "b")] =
            .error rightFault ∧
          leftFault ≠ rightFault ∧ leftFault.category = rightFault.category) ∧
      derive {} .pair [] = precise.derive .pair [] := by
  have leftValid : validate {} = .ok () := rfl
  have rightValid : precise.validate = .ok () := by decide
  have composite : Shape.pair.isComposite = true := rfl
  refine ⟨leftValid, rightValid, composite, ?_, ?_,
    (agree_of_validate leftValid rightValid .pair []).2 composite⟩
  · obtain ⟨leftSchema, rightSchema, leftDerived, rightDerived, differ⟩ :
        ∃ leftSchema rightSchema,
          derive {} .pair [.reference "f1", .rowtime (.reference "f0")] = .ok leftSchema ∧
            precise.derive .pair [.reference "f1", .rowtime (.reference "f0")] = .ok rightSchema ∧
            leftSchema ≠ rightSchema := ⟨_, _, rfl, rfl, by decide⟩
    have related := (agree_of_validate leftValid rightValid .pair
      [.reference "f1", .rowtime (.reference "f0")]).1 (List.cons_ne_nil _ _)
    rw [leftDerived, rightDerived] at related
    cases related with
    | ok agree => exact ⟨_, _, leftDerived, rightDerived, differ, agree⟩
  · obtain ⟨leftFault, rightFault, leftRefused, rightRefused, differ⟩ :
        ∃ leftFault rightFault,
          derive {} .amount [.rowtime (.reference "a"), .rowtime (.reference "b")] =
              .error leftFault ∧
            precise.derive .amount [.rowtime (.reference "a"), .rowtime (.reference "b")] =
              .error rightFault ∧
            leftFault ≠ rightFault := ⟨_, _, rfl, rfl, by decide⟩
    have related := (agree_of_validate leftValid rightValid .amount
      [.rowtime (.reference "a"), .rowtime (.reference "b")]).1 (List.cons_ne_nil _ _)
    rw [leftRefused, rightRefused] at related
    cases related with
    | error category_eq => exact ⟨_, _, leftRefused, rightRefused, differ, category_eq⟩

end Settings
end Tabulate
