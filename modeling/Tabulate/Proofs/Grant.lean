import Tabulate.Derivation
import Tabulate.Proofs.Lookup
import Tabulate.Proofs.Outcome

/-!
# What expressions are granted

Each way to read expressions has a relation that says which field an expression is granted, and
under which condition.  An expression outside the relation is refused.  A list of expressions is
granted one field for each of them.
-/

namespace Tabulate

@[simp]
theorem Expression.expectReference_eq_ok_iff {expression : Expression} {name : String} :
    expression.expectReference = .ok name ↔ expression = .reference name := by
  cases expression <;> simp [expectReference, reference?]

@[simp]
theorem Expression.reference?_eq_some_iff {expression : Expression} {name : String} :
    expression.reference? = some name ↔ expression = .reference name := by
  cases expression <;> simp [reference?]

/-- Only a plain reference gives its name to a field. -/
theorem Expression.named_eq_ok_iff {inner : Expression} {make : String → Field} {field : Field} :
    (inner.expectReference >>= fun name => pure (make name)) = .ok field ↔
      ∃ name, inner = .reference name ∧ make name = field := by
  simp [Outcome.bind_eq_ok_iff]

@[simp]
theorem ColumnType.checkRowtime_eq_ok_iff {type : ColumnType} {result : Unit} :
    type.checkRowtime = .ok result ↔ type.canBeRowtime = true := by
  simp [checkRowtime]

namespace Shape

/-! ## By name -/

/-- The first part of a name, if there is one, may be replaced by a row-time attribute. -/
def GivesWay (shape : Shape) (name : String) : Prop :=
  ∀ place type, shape.IsFirst name place type → type.canBeRowtime = true

theorem givesWay_of_notMem {shape : Shape} {name : String} (absent : name ∉ shape.partNames) :
    shape.GivesWay name :=
  fun _ _ first => absurd first.mem_partNames absent

theorem IsFirst.givesWay_iff {shape : Shape} {name : String} {place : Nat} {type : ColumnType}
    (first : shape.IsFirst name place type) : shape.GivesWay name ↔ type.canBeRowtime = true := by
  constructor
  · intro givesWay
    exact givesWay place type first
  · intro timed other otherType otherFirst
    obtain ⟨rfl, rfl⟩ := first.unique otherFirst
    exact timed

/-- The field that an expression is granted when references name parts. -/
inductive GrantsByName (precision : UInt8) (shape : Shape) : Expression → Field → Prop
  | reference {name : String} {place : Nat} {type : ColumnType}
      (first : shape.IsFirst name place type) :
      GrantsByName precision shape (.reference name) { name, origin := .physical place, type }
  | renamed {part name : String} {place : Nat} {type : ColumnType}
      (first : shape.IsFirst part place type) :
      GrantsByName precision shape (.renamed (.reference part) name)
        { name, origin := .physical place, type }
  | rowtime {name : String} (givesWay : shape.GivesWay name) :
      GrantsByName precision shape (.rowtime (.reference name)) (.ofRowtime precision name)
  | renamedRowtime {part name : String} (present : part ∈ shape.partNames)
      (givesWay : shape.GivesWay part) :
      GrantsByName precision shape (.renamed (.rowtime (.reference part)) name)
        (.ofRowtime precision name)
  | proctime {name : String} (absent : name ∉ shape.partNames) :
      GrantsByName precision shape (.proctime (.reference name)) (.ofProctime precision name)
  | renamedProctime {part name : String} (absent : part ∉ shape.partNames) :
      GrantsByName precision shape (.renamed (.proctime (.reference part)) name)
        (.ofProctime precision name)

theorem partField_eq_ok_iff {shape : Shape} {part name : String} {field : Field} :
    shape.partField part name = .ok field ↔
      ∃ place type, shape.IsFirst part place type ∧
        field = { name, origin := .physical place, type } := by
  rw [partField]
  split
  next place type found =>
    have first := find?_eq_some_iff.mp found
    constructor
    · intro granted
      exact ⟨place, type, first, (Except.ok.inj granted).symm⟩
    · rintro ⟨other, otherType, otherFirst, rfl⟩
      obtain ⟨rfl, rfl⟩ := first.unique otherFirst
      rfl
  next missing =>
    simp only [reduceCtorEq, false_iff]
    rintro ⟨place, type, first, -⟩
    exact find?_eq_none_iff.mp missing first.mem_partNames

theorem rowtimeField_eq_ok_iff {precision : UInt8} {shape : Shape} {inner : Expression}
    {name? : Option String} {field : Field} :
    rowtimeField precision shape inner name? = .ok field ↔
      ∃ reference, inner = .reference reference ∧ shape.GivesWay reference ∧
        (reference ∈ shape.partNames ∨ name? = none) ∧
        field = .ofRowtime precision (name?.getD reference) := by
  simp only [rowtimeField, Outcome.bind_eq_ok_iff, Expression.expectReference_eq_ok_iff]
  refine exists_congr fun reference => and_congr_right fun _ => ?_
  cases found : shape.find? reference with
  | none =>
      have absent := find?_eq_none_iff.mp found
      have givesWay := givesWay_of_notMem absent
      cases name? with
      | none => simp [givesWay, @eq_comm _ field]
      | some name => simp [absent]
  | some entry =>
      obtain ⟨place, type⟩ := entry
      have first := find?_eq_some_iff.mp found
      simp [Outcome.bind_eq_ok_iff, first.givesWay_iff, first.mem_partNames, @eq_comm _ field]

theorem proctimeField_eq_ok_iff {precision : UInt8} {shape : Shape} {inner : Expression}
    {name? : Option String} {field : Field} :
    proctimeField precision shape inner name? = .ok field ↔
      ∃ reference, inner = .reference reference ∧ reference ∉ shape.partNames ∧
        field = .ofProctime precision (name?.getD reference) := by
  simp only [proctimeField, Outcome.bind_eq_ok_iff, Expression.expectReference_eq_ok_iff,
    Outcome.throw_eq_error, Outcome.error_bind, Outcome.refuse_eq_ok_iff, placeOf?_isSome_iff,
    Outcome.pure_eq_ok, Except.ok.injEq, @eq_comm _ field]

/-- By name, exactly the granted fields are derived. -/
theorem fieldByName_eq_ok_iff {precision : UInt8} {shape : Shape} {expression : Expression}
    {field : Field} :
    expression.fieldByName precision shape = .ok field ↔
      shape.GrantsByName precision expression field := by
  constructor
  · intro derived
    cases expression with
    | reference name =>
        obtain ⟨place, type, first, rfl⟩ := partField_eq_ok_iff.mp derived
        exact .reference first
    | renamed inner name =>
        cases inner with
        | reference part =>
            obtain ⟨place, type, first, rfl⟩ := partField_eq_ok_iff.mp derived
            exact .renamed first
        | rowtime inner =>
            obtain ⟨part, rfl, givesWay, present | impossible, rfl⟩ :=
              rowtimeField_eq_ok_iff.mp derived
            · exact .renamedRowtime present givesWay
            · cases impossible
        | proctime inner =>
            obtain ⟨part, rfl, absent, rfl⟩ := proctimeField_eq_ok_iff.mp derived
            exact .renamedProctime absent
        | renamed inner other => cases derived
        | unsupported description => cases derived
    | rowtime inner =>
        obtain ⟨name, rfl, givesWay, -, rfl⟩ := rowtimeField_eq_ok_iff.mp derived
        exact .rowtime givesWay
    | proctime inner =>
        obtain ⟨name, rfl, absent, rfl⟩ := proctimeField_eq_ok_iff.mp derived
        exact .proctime absent
    | unsupported description => cases derived
  · intro granted
    cases granted with
    | reference first => exact partField_eq_ok_iff.mpr ⟨_, _, first, rfl⟩
    | renamed first => exact partField_eq_ok_iff.mpr ⟨_, _, first, rfl⟩
    | rowtime givesWay =>
        exact rowtimeField_eq_ok_iff.mpr ⟨_, rfl, givesWay, .inr rfl, rfl⟩
    | renamedRowtime present givesWay =>
        exact rowtimeField_eq_ok_iff.mpr ⟨_, rfl, givesWay, .inl present, rfl⟩
    | proctime absent => exact proctimeField_eq_ok_iff.mpr ⟨_, rfl, absent, rfl⟩
    | renamedProctime absent => exact proctimeField_eq_ok_iff.mpr ⟨_, rfl, absent, rfl⟩

theorem fieldsByName_eq_ok_iff {precision : UInt8} {shape : Shape} {expressions : List Expression}
    {fields : List Field} :
    shape.fieldsByName precision expressions = .ok fields ↔
      List.Forall₂ (shape.GrantsByName precision) expressions fields := by
  simp only [fieldsByName, Outcome.mapM_eq_ok_iff, fieldByName_eq_ok_iff]

/-! ## By place -/

/-- The field that an expression at a place is granted when references name the part there. -/
inductive GrantsByPlace (precision : UInt8) (shape : Shape) (place : Nat) :
    Expression → Field → Prop
  | reference {name : String} {type : ColumnType} (found : shape.typeAt? place = some type) :
      GrantsByPlace precision shape place (.reference name)
        { name, origin := .physical place, type }
  | rowtime {name : String}
      (givesWay : ∀ type, shape.typeAt? place = some type → type.canBeRowtime = true) :
      GrantsByPlace precision shape place (.rowtime (.reference name)) (.ofRowtime precision name)
  | proctime {name : String} (behind : shape.arity ≤ place) :
      GrantsByPlace precision shape place (.proctime (.reference name))
        (.ofProctime precision name)
  | renamedProctime {part name : String} (behind : shape.arity ≤ place) :
      GrantsByPlace precision shape place (.renamed (.proctime (.reference part)) name)
        (.ofProctime precision name)

theorem checkBehind_eq_ok_iff {shape : Shape} {place : Nat} {expression : Expression}
    {result : Unit} :
    shape.checkBehind place expression = .ok result ↔ shape.arity ≤ place := by
  simp [checkBehind]

theorem checkReplaceable_eq_ok_iff {shape : Shape} {place : Nat} {result : Unit} :
    shape.checkReplaceable place = .ok result ↔
      ∀ type, shape.typeAt? place = some type → type.canBeRowtime = true := by
  rw [checkReplaceable]
  split
  next type found => simp [found]
  next missing => simp [missing]

/-- By place, exactly the granted fields are derived. -/
theorem fieldByPlace_eq_ok_iff {precision : UInt8} {shape : Shape} {place : Nat}
    {expression : Expression} {field : Field} :
    expression.fieldByPlace precision shape place = .ok field ↔
      shape.GrantsByPlace precision place expression field := by
  constructor
  · intro derived
    cases expression with
    | reference name =>
        simp only [Expression.fieldByPlace] at derived
        split at derived
        next type found =>
          cases derived
          exact .reference found
        next missing => cases derived
    | renamed inner name =>
        cases inner with
        | proctime inner =>
            obtain ⟨checked, derived⟩ := Outcome.then_eq_ok_iff.mp derived
            obtain ⟨part, rfl, rfl⟩ := Expression.named_eq_ok_iff.mp derived
            exact .renamedProctime (checkBehind_eq_ok_iff.mp checked)
        | reference part => cases derived
        | renamed inner other => cases derived
        | rowtime inner => cases derived
        | unsupported description => cases derived
    | rowtime inner =>
        obtain ⟨checked, derived⟩ := Outcome.then_eq_ok_iff.mp derived
        obtain ⟨name, rfl, rfl⟩ := Expression.named_eq_ok_iff.mp derived
        exact .rowtime (checkReplaceable_eq_ok_iff.mp checked)
    | proctime inner =>
        obtain ⟨checked, derived⟩ := Outcome.then_eq_ok_iff.mp derived
        obtain ⟨name, rfl, rfl⟩ := Expression.named_eq_ok_iff.mp derived
        exact .proctime (checkBehind_eq_ok_iff.mp checked)
    | unsupported description => cases derived
  · intro granted
    cases granted with
    | reference found => simp [Expression.fieldByPlace, found]
    | rowtime givesWay =>
        exact Outcome.then_eq_ok_iff.mpr ⟨checkReplaceable_eq_ok_iff.mpr givesWay, rfl⟩
    | proctime behind =>
        exact Outcome.then_eq_ok_iff.mpr ⟨checkBehind_eq_ok_iff.mpr behind, rfl⟩
    | renamedProctime behind =>
        exact Outcome.then_eq_ok_iff.mpr ⟨checkBehind_eq_ok_iff.mpr behind, rfl⟩

theorem fieldsByPlace_eq_ok_iff {precision : UInt8} {shape : Shape}
    {expressions : List Expression} {fields : List Field} :
    shape.fieldsByPlace precision expressions = .ok fields ↔
      List.Forall₂ (fun entry => shape.GrantsByPlace precision entry.2 entry.1)
        expressions.zipIdx fields := by
  simp only [fieldsByPlace, Outcome.mapM_eq_ok_iff, fieldByPlace_eq_ok_iff]

end Shape

/-! ## Around a lone value -/

namespace ColumnType

/-- The field that an expression at a place is granted around a lone value. -/
inductive GrantsAround (precision : UInt8) (type : ColumnType) (place : Nat) :
    Expression → Field → Prop
  | reference {name : String} :
      GrantsAround precision type place (.reference name)
        { name, origin := .physical place, type }
  | rowtime {name : String} :
      GrantsAround precision type place (.rowtime (.reference name)) (.ofRowtime precision name)
  | renamedRowtime {part name : String} :
      GrantsAround precision type place (.renamed (.rowtime (.reference part)) name)
        (.ofRowtime precision name)
  | proctime {name : String} :
      GrantsAround precision type place (.proctime (.reference name)) (.ofProctime precision name)
  | renamedProctime {part name : String} :
      GrantsAround precision type place (.renamed (.proctime (.reference part)) name)
        (.ofProctime precision name)

/-- Beside plain references, exactly the granted time attributes are derived. -/
theorem timeAttribute_eq_ok_iff {precision : UInt8} {type : ColumnType} {place : Nat}
    {expression : Expression} {field : Field} (other : expression.reference? = none) :
    expression.timeAttribute precision = .ok field ↔
      type.GrantsAround precision place expression field := by
  constructor
  · intro derived
    cases expression with
    | reference name => cases other
    | renamed inner name =>
        cases inner with
        | rowtime inner =>
            obtain ⟨part, rfl, rfl⟩ := Expression.named_eq_ok_iff.mp derived
            exact .renamedRowtime
        | proctime inner =>
            obtain ⟨part, rfl, rfl⟩ := Expression.named_eq_ok_iff.mp derived
            exact .renamedProctime
        | reference part => cases derived
        | renamed inner name => cases derived
        | unsupported description => cases derived
    | rowtime inner =>
        obtain ⟨name, rfl, rfl⟩ := Expression.named_eq_ok_iff.mp derived
        exact .rowtime
    | proctime inner =>
        obtain ⟨name, rfl, rfl⟩ := Expression.named_eq_ok_iff.mp derived
        exact .proctime
    | unsupported description => cases derived
  · intro granted
    cases granted with
    | reference => cases other
    | rowtime => rfl
    | renamedRowtime => rfl
    | proctime => rfl
    | renamedProctime => rfl

theorem fieldsFrom_cons {precision : UInt8} {type : ColumnType} {referred : Bool} {place : Nat}
    {expression : Expression} {expressions : List Expression}
    (other : expression.reference? = none) :
    type.fieldsFrom precision referred place (expression :: expressions) =
      expression.timeAttribute precision >>= fun field =>
        type.fieldsFrom precision referred (place + 1) expressions >>= fun fields =>
          .ok (field :: fields) := by
  cases expression with
  | reference name => cases other
  | renamed inner name => rfl
  | rowtime inner => rfl
  | proctime inner => rfl
  | unsupported description => rfl

/-- Around a lone value, exactly the granted fields are derived, and the value is referred to once
at most.  The flag of the recursion counts for a reference behind it. -/
theorem fieldsFrom_eq_ok_iff {precision : UInt8} {type : ColumnType} {referred : Bool}
    {place : Nat} {expressions : List Expression} {fields : List Field} :
    type.fieldsFrom precision referred place expressions = .ok fields ↔
      List.Forall₂ (fun entry => type.GrantsAround precision entry.2 entry.1)
          (expressions.zipIdx place) fields ∧
        referred.toNat + expressions.countP (·.reference?.isSome) ≤ 1 := by
  induction expressions generalizing referred place fields with
  | nil =>
      have flag_le : referred.toNat ≤ 1 := Bool.toNat_le referred
      simp [fieldsFrom, flag_le, eq_comm]
  | cons expression expressions ih =>
      rw [List.zipIdx_cons, List.forall₂_cons_left_iff]
      cases kind : expression.reference? with
      | none =>
          have head_iff : ∀ field, expression.timeAttribute precision = .ok field ↔
              type.GrantsAround precision place expression field :=
            fun field => timeAttribute_eq_ok_iff kind
          rw [fieldsFrom_cons kind]
          simp only [Outcome.bind_eq_ok_iff, Except.ok.injEq, head_iff, ih, List.countP_cons, kind,
            Option.isSome_none, Bool.false_eq_true, if_false, Nat.add_zero]
          constructor
          · rintro ⟨field, head, rest, ⟨tail, count_le⟩, rfl⟩
            exact ⟨⟨field, rest, head, tail, rfl⟩, count_le⟩
          · rintro ⟨⟨field, rest, head, tail, rfl⟩, count_le⟩
            exact ⟨field, head, rest, ⟨tail, count_le⟩, rfl⟩
      | some name =>
          -- A reference needs the flag to be down and raises it for the rest.
          obtain rfl := Expression.reference?_eq_some_iff.mp kind
          simp only [fieldsFrom, Outcome.throw_eq_error, Outcome.error_bind,
            Outcome.refuse_eq_ok_iff, Outcome.bind_eq_ok_iff, Outcome.pure_eq_ok,
            Except.ok.injEq, ih, List.countP_cons, kind, Option.isSome_some, if_true]
          constructor
          · rintro ⟨first, rest, ⟨tail, count_le⟩, rfl⟩
            refine ⟨⟨_, rest, .reference, tail, rfl⟩, ?_⟩
            have flag_eq : referred = false := by simpa using first
            simp only [flag_eq, Bool.toNat_true, Bool.toNat_false] at count_le ⊢
            omega
          · rintro ⟨⟨field, rest, head, tail, rfl⟩, count_le⟩
            cases head
            have flag_eq : referred = false := by
              cases referred with
              | false => rfl
              | true =>
                  simp only [Bool.toNat_true] at count_le
                  omega
            simp only [flag_eq, Bool.toNat_true, Bool.toNat_false] at count_le ⊢
            exact ⟨by simp, rest, ⟨tail, by omega⟩, rfl⟩

theorem fieldsAround_eq_ok_iff {precision : UInt8} {type : ColumnType}
    {expressions : List Expression} {fields : List Field} :
    type.fieldsAround precision expressions = .ok fields ↔
      List.Forall₂ (fun entry => type.GrantsAround precision entry.2 entry.1)
          expressions.zipIdx fields ∧
        expressions.countP (·.reference?.isSome) ≤ 1 := by
  simp [fieldsAround, fieldsFrom_eq_ok_iff]

end ColumnType
end Tabulate
