import Tabulate.Proofs.Derive

/-!
# By place or by name

A positional shape is read by place or by name, and the choice is made once for all expressions.  A
plain reference to a part is never read by place, so it never stands for another part.  Where both
readings grant a field, they grant the same, so a shape that may be addressed by place has no other
schemas than the same shape addressed by name only.
-/

namespace Tabulate
/-! ## References -/

section References

variable {precision : UInt8} {shape : Shape} {expressions : List Expression} {fields : List Field}
  {place : Nat} {name : String}

theorem Shape.GrantsByName.field_of_reference {field : Field}
    (granted : shape.GrantsByName precision (.reference name) field) :
    ∃ first type, shape.IsFirst name first type ∧
      field = { name, origin := .physical first, type } := by
  cases granted with
  | reference first => exact ⟨_, _, first, rfl⟩

theorem Shape.GrantsByPlace.field_of_reference {field : Field}
    (granted : shape.GrantsByPlace precision place (.reference name) field) :
    ∃ type, shape.typeAt? place = some type ∧
      field = { name, origin := .physical place, type } := by
  cases granted with
  | reference found => exact ⟨_, found, rfl⟩

theorem Shape.field_of_reference_byName
    (resolved : shape.fieldsByName precision expressions = .ok fields)
    (asked : expressions[place]? = some (.reference name)) :
    ∃ first type, shape.IsFirst name first type ∧
      fields[place]? = some { name, origin := .physical first, type } := by
  obtain ⟨field, found, granted⟩ :=
    Outcome.exists_getElem?_of_forall₂ (fieldsByName_eq_ok_iff.mp resolved) asked
  obtain ⟨first, type, isFirst, rfl⟩ := granted.field_of_reference
  exact ⟨first, type, isFirst, found⟩

theorem Shape.field_of_reference_byPlace
    (resolved : shape.fieldsByPlace precision expressions = .ok fields)
    (asked : expressions[place]? = some (.reference name)) :
    ∃ type, shape.typeAt? place = some type ∧
      fields[place]? = some { name, origin := .physical place, type } := by
  have entry : expressions.zipIdx[place]? = some (.reference name, place) := by
    simp [List.getElem?_zipIdx, asked]
  obtain ⟨field, found, granted⟩ :=
    Outcome.exists_getElem?_of_forall₂ (fieldsByPlace_eq_ok_iff.mp resolved) entry
  obtain ⟨type, typed, rfl⟩ := granted.field_of_reference
  exact ⟨type, typed, found⟩

end References

/-- A plain reference stands for the first part of its name.  Only in a positional shape none of
whose parts is referred to by name, it stands for the part at its own place instead. -/
theorem Settings.origin_of_reference {settings : Settings} {shape : Shape}
    {expressions : List Expression} {schema : Schema} {place : Nat} {name : String}
    (composite : shape.isComposite = true)
    (derived : settings.derive shape expressions = .ok schema)
    (asked : expressions[place]? = some (.reference name)) :
    ((∃ first type, shape.IsFirst name first type ∧
        schema.fields[place]? = some { name, origin := .physical first, type }) ∨
      (shape.isPositional = true ∧
        (∀ other, .reference other ∈ expressions → other ∉ shape.partNames) ∧
        ∃ type, shape.typeAt? place = some type ∧
          schema.fields[place]? = some { name, origin := .physical place, type })) ∧
      (name ∈ shape.partNames → ∃ first type, shape.IsFirst name first type ∧
        schema.fields[place]? = some { name, origin := .physical first, type }) := by
  have member : .reference name ∈ expressions := List.mem_of_getElem? asked
  obtain ⟨-, -, resolved, -⟩ := (derive_eq_ok_iff (List.ne_nil_of_mem member)).mp derived
  rw [Shape.resolve_of_composite composite] at resolved
  split at resolved
  next byPlace =>
    obtain ⟨positional, absent⟩ := Shape.readsByPlace_eq_true_iff.mp byPlace
    refine ⟨.inr ⟨positional, absent, Shape.field_of_reference_byPlace resolved asked⟩, ?_⟩
    intro present
    exact absurd present (absent name member)
  next byName =>
    have taken := Shape.field_of_reference_byName resolved asked
    exact ⟨.inl taken, fun _ => taken⟩

/-- The second part of a pair is asked for first, beside another part under a new name. -/
theorem Settings.origin_of_reference_pair :
    ∃ schema, Shape.pair.isComposite = true ∧
      derive {} .pair [.reference "f1", .renamed (.reference "f0") "id"] = .ok schema ∧
      ([.reference "f1", .renamed (.reference "f0") "id"] : List Expression)[0]? =
        some (.reference "f1") ∧
      ∃ first type, Shape.pair.IsFirst "f1" first type ∧
        schema.fields[0]? = some { name := "f1", origin := .physical first, type } := by
  have composite : Shape.pair.isComposite = true := rfl
  have asked : ([.reference "f1", .renamed (.reference "f0") "id"] : List Expression)[0]? =
      some (.reference "f1") := rfl
  obtain ⟨schema, derived⟩ : ∃ schema,
      derive {} .pair [.reference "f1", .renamed (.reference "f0") "id"] = .ok schema := ⟨_, rfl⟩
  have present : "f1" ∈ Shape.pair.partNames := by decide
  obtain ⟨-, taken⟩ := origin_of_reference composite derived asked
  exact ⟨schema, composite, derived, asked, taken present⟩

/-! ## Tuples and records -/

section TupleAndRecord

variable {precision : UInt8} {declaration : Declaration} {parts : List Column}
  {expression : Expression} {expressions : List Expression}

/-- The two readings never grant different fields, but for references to no part. -/
theorem Shape.GrantsByPlace.eq_of_grantsByName {place : Nat} {left right : Field}
    (byPlace : (tuple declaration parts).GrantsByPlace precision place expression left)
    (byName : (record declaration parts).GrantsByName precision expression right)
    (absent : ∀ name, expression = .reference name → name ∉ (tuple declaration parts).partNames) :
    left = right := by
  cases byPlace with
  | reference found =>
      cases byName with
      | reference first => exact absurd first.mem_partNames (absent _ rfl)
  | rowtime givesWay => cases byName with | rowtime _ => rfl
  | proctime behind => cases byName with | proctime _ => rfl
  | renamedProctime behind => cases byName with | renamedProctime _ => rfl

/-- Read by name, a tuple and a record grant the same and refuse in the same words. -/
theorem Expression.report_fieldByName_tuple :
    (expression.fieldByName precision (.tuple declaration parts)).mapError Fault.report =
      (expression.fieldByName precision (.record declaration parts)).mapError Fault.report := by
  have part_eq : ∀ part name,
      ((Shape.tuple declaration parts).partField part name).mapError Fault.report =
        ((Shape.record declaration parts).partField part name).mapError Fault.report := by
    intro part name
    have find_eq : (Shape.tuple declaration parts).find? part =
        (Shape.record declaration parts).find? part := rfl
    rw [Shape.partField, Shape.partField, find_eq]
    cases (Shape.record declaration parts).find? part with
    | none => rfl
    | some entry => rfl
  cases expression with
  | reference name => exact part_eq name name
  | renamed inner name =>
      cases inner with
      | reference part => exact part_eq part name
      | renamed inner other => rfl
      | rowtime inner => rfl
      | proctime inner => rfl
      | unsupported description => rfl
  | rowtime inner => rfl
  | proctime inner => rfl
  | unsupported description => rfl

theorem Shape.report_fieldsByName_tuple :
    ((tuple declaration parts).fieldsByName precision expressions).mapError Fault.report =
      ((record declaration parts).fieldsByName precision expressions).mapError Fault.report := by
  simp only [fieldsByName, Outcome.mapError_mapM, Expression.report_fieldByName_tuple]

theorem Shape.report_checkAccessible_tuple :
    (tuple declaration parts).checkAccessible.mapError Fault.report =
      (record declaration parts).checkAccessible.mapError Fault.report := by
  by_cases accessible : declaration.isAccessible = true
  · simp [checkAccessible, tuple, record, accessible]
  · simp only [checkAccessible, tuple, record, accessible]
    rfl

theorem Shape.readsByPlace_record :
    (record declaration parts).readsByPlace expressions = false := rfl

/-- A tuple that is read by name has the outcome of the record. -/
theorem Settings.report_derive_tuple (settings : Settings) (asked : expressions ≠ [])
    (byName : (Shape.tuple declaration parts).readsByPlace expressions = false) :
    (settings.derive (.tuple declaration parts) expressions).mapError Fault.report =
      (settings.derive (.record declaration parts) expressions).mapError Fault.report := by
  have resolve_eq :
      ((Shape.tuple declaration parts).resolve settings.precision expressions).mapError
          Fault.report =
        ((Shape.record declaration parts).resolve settings.precision expressions).mapError
          Fault.report := by
    rw [Shape.resolve_of_composite rfl, Shape.resolve_of_composite rfl, byName,
      Shape.readsByPlace_record]
    exact Shape.report_fieldsByName_tuple
  simp only [derive_of_ne_nil asked, Outcome.mapError_bind, Shape.report_checkAccessible_tuple,
    resolve_eq]

/-- A tuple that is read by place has the schema of the record, if both have one. -/
theorem Settings.eq_of_derive_byPlace {settings : Settings} {fromTuple fromRecord : Schema}
    (asked : expressions ≠ [])
    (byPlace : (Shape.tuple declaration parts).readsByPlace expressions = true)
    (tupleDerived : settings.derive (.tuple declaration parts) expressions = .ok fromTuple)
    (recordDerived : settings.derive (.record declaration parts) expressions = .ok fromRecord) :
    fromTuple = fromRecord := by
  obtain ⟨-, absent⟩ := Shape.readsByPlace_eq_true_iff.mp byPlace
  obtain ⟨-, -, tupleResolved, -⟩ := (derive_eq_ok_iff asked).mp tupleDerived
  obtain ⟨-, -, recordResolved, -⟩ := (derive_eq_ok_iff asked).mp recordDerived
  rw [Shape.resolve_of_composite rfl, byPlace, if_pos rfl] at tupleResolved
  rw [Shape.resolve_of_composite rfl, Shape.readsByPlace_record] at recordResolved
  have tupleGranted := Shape.fieldsByPlace_eq_ok_iff.mp tupleResolved
  have recordGranted := Shape.fieldsByName_eq_ok_iff.mp recordResolved
  -- Both grants are related to the expressions with their places, to compare them in pairs.
  rw [← List.zipIdx_map_fst 0 expressions, List.forall₂_map_left_iff] at recordGranted
  have fields_eq : fromTuple.fields = fromRecord.fields := by
    apply Outcome.eq_of_forall₂_of_forall₂ tupleGranted recordGranted
    intro entry member left right leftGranted rightGranted
    apply leftGranted.eq_of_grantsByName rightGranted
    intro name asked_eq
    exact absent name (asked_eq ▸ List.fst_mem_of_mem_zipIdx member)
  exact eq_of_derive_of_fields_eq tupleDerived recordDerived fields_eq

end TupleAndRecord

/-- Whether parts may be addressed by place changes no schema, and once a plain reference names a
part, it changes no refusal either. -/
theorem Settings.derive_tuple_record (settings : Settings) (declaration : Declaration)
    (parts : List Column) (expressions : List Expression) :
    (∀ fromTuple fromRecord,
        settings.derive (.tuple declaration parts) expressions = .ok fromTuple →
        settings.derive (.record declaration parts) expressions = .ok fromRecord →
          fromTuple = fromRecord) ∧
      ((∃ name ∈ parts.map Column.name, .reference name ∈ expressions) →
        (settings.derive (.tuple declaration parts) expressions).mapError Fault.report =
          (settings.derive (.record declaration parts) expressions).mapError Fault.report) := by
  constructor
  · intro fromTuple fromRecord tupleDerived recordDerived
    by_cases asked : expressions = []
    · subst asked
      rw [derive_nil] at tupleDerived recordDerived
      obtain ⟨-, -, -, -, -, rfl⟩ := schemaOf_eq_ok_iff.mp tupleDerived
      obtain ⟨-, -, -, -, -, rfl⟩ := schemaOf_eq_ok_iff.mp recordDerived
      rfl
    · cases reading : (Shape.tuple declaration parts).readsByPlace expressions with
      | true => exact eq_of_derive_byPlace asked reading tupleDerived recordDerived
      | false =>
          have reports_eq := report_derive_tuple settings asked reading
          rw [tupleDerived, recordDerived] at reports_eq
          exact Except.ok.inj reports_eq
  · rintro ⟨name, present, member⟩
    have byName : (Shape.tuple declaration parts).readsByPlace expressions = false := by
      rw [← Bool.not_eq_true, Shape.readsByPlace_eq_true_iff]
      rintro ⟨-, absent⟩
      exact absent name member present
    exact report_derive_tuple settings (List.ne_nil_of_mem member) byName

/-- A row-time attribute that replaces a part is read by place and by name alike, and a reference to
a part beside a missing one is refused alike. -/
theorem Settings.derive_tuple_record_pair :
    (∃ fromTuple fromRecord,
        derive {} .pair [.rowtime (.reference "f0")] = .ok fromTuple ∧
          derive {} (.record Shape.pair.declaration Shape.pair.parts)
            [.rowtime (.reference "f0")] = .ok fromRecord ∧
          fromTuple = fromRecord) ∧
      (derive {} .pair [.reference "f1", .reference "f2"]).mapError Fault.report =
        (derive {} (.record Shape.pair.declaration Shape.pair.parts)
          [.reference "f1", .reference "f2"]).mapError Fault.report := by
  constructor
  · obtain ⟨fromTuple, tupleDerived⟩ : ∃ schema,
        derive {} .pair [.rowtime (.reference "f0")] = .ok schema := ⟨_, rfl⟩
    obtain ⟨fromRecord, recordDerived⟩ : ∃ schema,
        derive {} (.record Shape.pair.declaration Shape.pair.parts)
          [.rowtime (.reference "f0")] = .ok schema := ⟨_, rfl⟩
    refine ⟨fromTuple, fromRecord, tupleDerived, recordDerived, ?_⟩
    exact (derive_tuple_record {} _ _ _).1 fromTuple fromRecord tupleDerived recordDerived
  · exact (derive_tuple_record {} _ _ _).2 ⟨"f1", by decide, by decide⟩

end Tabulate
