import Tabulate.Proofs.Demand

/-!
# Derivations by place

What is asked of a positional shape none of whose parts is called by name can be answered place by
place.  A part can be kept under any name, or give way to the row-time attribute if its type allows
it.  Nothing but time attributes can stand behind the last part, so a derivation has at most two
fields more than the shape has parts.
-/

namespace Tabulate

namespace Shape

/-- The expression may stand at a place when references name the part there. -/
inductive AllowsByPlace (shape : Shape) (place : Nat) : Expression → Prop
  /-- A reference stands at the place of a part. -/
  | reference {name : String} (inside : place < shape.arity) :
      AllowsByPlace shape place (.reference name)
  /-- A row-time attribute stands behind the parts. -/
  | rowtime {name : String} (behind : shape.arity ≤ place) :
      AllowsByPlace shape place (.rowtime (.reference name))
  /-- A row-time attribute stands in place of a part whose type allows it. -/
  | replacement {name : String} {type : ColumnType} (found : shape.typeAt? place = some type)
      (timed : type.canBeRowtime = true) :
      AllowsByPlace shape place (.rowtime (.reference name))
  /-- A proc-time attribute stands behind the parts. -/
  | proctime {name : String} (behind : shape.arity ≤ place) :
      AllowsByPlace shape place (.proctime (.reference name))
  /-- A proc-time attribute under another name stands behind the parts. -/
  | renamedProctime {part name : String} (behind : shape.arity ≤ place) :
      AllowsByPlace shape place (.renamed (.proctime (.reference part)) name)

/-- What a derivation by place makes of its expressions. -/
structure ReadInPlace (settings : Settings) (shape : Shape) (expressions : List Expression)
    (schema : Schema) : Prop where
  /-- Each expression has one field. -/
  size_eq : schema.size = expressions.length
  /-- A reference is the part at its own place. -/
  reference_eq : ∀ (place : Nat) (name : String),
    expressions[place]? = some (.reference name) →
      ∃ type, shape.typeAt? place = some type ∧
        schema.fields[place]? = some { name, origin := .physical place, type }
  /-- A row-time attribute has the precision of the settings. -/
  rowtime_eq : ∀ (place : Nat) (name : String),
    expressions[place]? = some (.rowtime (.reference name)) →
      schema.fields[place]? =
        some { name, origin := .rowtime, type := .timestamp settings.precision .rowtime }
  /-- A proc-time attribute has the precision of the settings. -/
  proctime_eq : ∀ (place : Nat) (name : String),
    expressions[place]? = some (.proctime (.reference name)) →
      schema.fields[place]? =
        some { name, origin := .proctime, type := .timestamp settings.precision .proctime }
  /-- Under another name, it is the same but for the name. -/
  renamedProctime_eq : ∀ (place : Nat) (part name : String),
    expressions[place]? = some (.renamed (.proctime (.reference part)) name) →
      schema.fields[place]? =
        some { name, origin := .proctime, type := .timestamp settings.precision .proctime }
  /-- There are at most two fields more than parts. -/
  size_le : schema.size ≤ shape.arity + 2
  /-- Each part that an expression stands for is kept at its place, or gives way to the row-time
  attribute. -/
  kept_or_replaced : ∀ place < min shape.arity expressions.length,
    ∃ type field, shape.typeAt? place = some type ∧ schema.fields[place]? = some field ∧
      (field.origin = .physical place ∧ field.type = type ∨
        field.isRowtime = true ∧ type.canBeRowtime = true)
  /-- At most one part gives way. -/
  rowtimes_le_one : schema.fields.countP Field.isRowtime ≤ 1
  /-- No part is taken to another place. -/
  place_eq : ∀ place field, schema.fields[place]? = some field → ∀ taken,
    field.origin = .physical taken → taken = place ∧ place < shape.arity

variable {precision : UInt8} {shape : Shape} {place : Nat} {expression : Expression} {field : Field}

theorem isComposite_of_isPositional (positional : shape.isPositional = true) :
    shape.isComposite = true := by
  obtain ⟨declaration, layout⟩ := shape
  cases layout with
  | atomic type => cases positional
  | composite parts _ => rfl
  | generic => cases positional

theorem exists_typeAt?_iff : (∃ type, shape.typeAt? place = some type) ↔ place < shape.arity := by
  constructor
  · rintro ⟨type, found⟩
    exact lt_arity_of_typeAt? found
  · intro inside
    exact ⟨_, typeAt?_eq_some_iff.mpr ⟨_, List.getElem?_eq_getElem inside⟩⟩

theorem typeAt?_eq_none_of_arity_le (behind : shape.arity ≤ place) :
    shape.typeAt? place = none := by
  rw [Option.eq_none_iff_forall_ne_some]
  intro type found
  exact Nat.not_lt_of_le behind (lt_arity_of_typeAt? found)

/-- Exactly the expressions that may stand at a place are granted a field there. -/
theorem exists_grantsByPlace_iff :
    (∃ field, shape.GrantsByPlace precision place expression field) ↔
      shape.AllowsByPlace place expression := by
  constructor
  · rintro ⟨field, granted⟩
    cases granted with
    | reference found => exact .reference (lt_arity_of_typeAt? found)
    | rowtime givesWay =>
        by_cases inside : place < shape.arity
        · obtain ⟨type, found⟩ := exists_typeAt?_iff.mpr inside
          exact .replacement found (givesWay type found)
        · exact .rowtime (Nat.le_of_not_lt inside)
    | proctime behind => exact .proctime behind
    | renamedProctime behind => exact .renamedProctime behind
  · intro allowed
    cases allowed with
    | reference inside =>
        obtain ⟨type, found⟩ := exists_typeAt?_iff.mpr inside
        exact ⟨_, .reference found⟩
    | rowtime behind =>
        refine ⟨_, .rowtime fun type found => ?_⟩
        cases (typeAt?_eq_none_of_arity_le behind).symm.trans found
    | replacement found timed =>
        refine ⟨_, .rowtime fun other otherFound => ?_⟩
        obtain rfl := Option.some.inj (found.symm.trans otherFound)
        exact timed
    | proctime behind => exact ⟨_, .proctime behind⟩
    | renamedProctime behind => exact ⟨_, .renamedProctime behind⟩

theorem GrantsByPlace.isMet (granted : shape.GrantsByPlace precision place expression field) :
    expression.IsMet field := by
  cases granted with
  | reference found => exact ⟨rfl, rfl, rfl⟩
  | rowtime givesWay => exact ⟨rfl, rfl, rfl⟩
  | proctime behind => exact ⟨rfl, rfl, rfl⟩
  | renamedProctime behind => exact ⟨rfl, rfl, rfl⟩

/-- Behind the parts, only time attributes may be asked for. -/
theorem AllowsByPlace.asks_of_arity_le (allowed : shape.AllowsByPlace place expression)
    (behind : shape.arity ≤ place) :
    expression.asksRowtime = true ∨ expression.asksProctime = true := by
  cases allowed with
  | reference inside => exact absurd inside (Nat.not_lt_of_le behind)
  | rowtime _ => exact .inl rfl
  | replacement found timed => exact .inl rfl
  | proctime _ => exact .inr rfl
  | renamedProctime _ => exact .inr rfl

/-- At the place of a part, that part is granted or gives way. -/
theorem GrantsByPlace.keeps_or_replaces {type : ColumnType}
    (granted : shape.GrantsByPlace precision place expression field)
    (found : shape.typeAt? place = some type) :
    field.origin = .physical place ∧ field.type = type ∨
      field.isRowtime = true ∧ type.canBeRowtime = true := by
  have inside := lt_arity_of_typeAt? found
  cases granted with
  | reference otherFound => exact .inl ⟨rfl, Option.some.inj (otherFound.symm.trans found)⟩
  | rowtime givesWay => exact .inr ⟨rfl, givesWay type found⟩
  | proctime behind => exact absurd inside (Nat.not_lt_of_le behind)
  | renamedProctime behind => exact absurd inside (Nat.not_lt_of_le behind)

theorem GrantsByPlace.place_eq (granted : shape.GrantsByPlace precision place expression field)
    {taken : Nat} (physical : field.origin = .physical taken) :
    taken = place ∧ place < shape.arity := by
  cases granted with
  | reference found =>
      cases physical
      exact ⟨rfl, lt_arity_of_typeAt? found⟩
  | rowtime givesWay => cases physical
  | proctime behind => cases physical
  | renamedProctime behind => cases physical

/-! ## Lists of expressions -/

variable {expressions : List Expression} {fields : List Field}

/-- Expressions that go together and may stand at their places are at most two more than the
parts. -/
theorem length_le_of_allowsByPlace
    (allowed : ∀ place expression, expressions[place]? = some expression →
      shape.AllowsByPlace place expression)
    (compatible : Expression.Compatible expressions) : expressions.length ≤ shape.arity + 2 := by
  have behind_le : (expressions.drop shape.arity).length ≤ 2 := by
    refine compatible.length_le_two (List.drop_sublist _ _) fun expression member => ?_
    obtain ⟨place, found⟩ := List.mem_iff_getElem?.mp member
    rw [List.getElem?_drop] at found
    exact (allowed _ _ found).asks_of_arity_le (Nat.le_add_right _ _)
  rw [List.length_drop] at behind_le
  omega

/-- Fields are granted by place exactly to expressions that may stand at their places. -/
theorem exists_fieldsByPlace_iff :
    (∃ fields, shape.fieldsByPlace precision expressions = .ok fields) ↔
      ∀ place expression, expressions[place]? = some expression →
        shape.AllowsByPlace place expression := by
  simp only [fieldsByPlace_eq_ok_iff, Outcome.exists_forall₂_iff, exists_grantsByPlace_iff,
    Prod.forall, List.mk_mem_zipIdx_iff_getElem?]
  exact forall_comm

/-- Fields that are granted by place are what the expressions ask for. -/
theorem isMet_of_fieldsByPlace (derived : shape.fieldsByPlace precision expressions = .ok fields) :
    List.Forall₂ Expression.IsMet expressions fields := by
  have granted := fieldsByPlace_eq_ok_iff.mp derived
  have met := granted.imp fun _ _ => GrantsByPlace.isMet
  rwa [← List.forall₂_map_left_iff, List.zipIdx_map_fst] at met

theorem exists_grantsByPlace_of_expression
    (derived : shape.fieldsByPlace precision expressions = .ok fields)
    (found : expressions[place]? = some expression) :
    ∃ field, fields[place]? = some field ∧
      shape.GrantsByPlace precision place expression field := by
  have numbered : expressions.zipIdx[place]? = some (expression, place) := by
    simp [List.getElem?_zipIdx, found]
  exact Outcome.exists_getElem?_of_forall₂ (fieldsByPlace_eq_ok_iff.mp derived) numbered

theorem exists_grantsByPlace_of_field
    (derived : shape.fieldsByPlace precision expressions = .ok fields)
    (found : fields[place]? = some field) :
    ∃ expression, shape.GrantsByPlace precision place expression field := by
  have length_eq := (isMet_of_fieldsByPlace derived).length_eq
  have inside : place < expressions.length := by
    rw [length_eq]
    exact (List.getElem?_eq_some_iff.mp found).1
  obtain ⟨other, otherFound, granted⟩ :=
    exists_grantsByPlace_of_expression derived (List.getElem?_eq_getElem inside)
  obtain rfl := Option.some.inj (found.symm.trans otherFound)
  exact ⟨_, granted⟩

end Shape

namespace Settings

variable {settings : Settings} {shape : Shape} {expressions : List Expression} {schema : Schema}

/-- Fields that are granted by place and pass the checks across fields are read in place. -/
theorem readInPlace_of_fieldsByPlace
    (derived : shape.fieldsByPlace settings.precision expressions = .ok schema.fields)
    (checked : Field.checkAll schema.fields = .ok schema.hasRowtime) :
    shape.ReadInPlace settings expressions schema := by
  have met := Shape.isMet_of_fieldsByPlace derived
  constructor
  case size_eq => exact met.length_eq.symm
  case reference_eq =>
    intro place name found
    obtain ⟨field, fieldFound, granted⟩ := Shape.exists_grantsByPlace_of_expression derived found
    cases granted with
    | reference typeFound => exact ⟨_, typeFound, fieldFound⟩
  case rowtime_eq =>
    intro place name found
    obtain ⟨field, fieldFound, granted⟩ := Shape.exists_grantsByPlace_of_expression derived found
    cases granted with
    | rowtime givesWay => exact fieldFound
  case proctime_eq =>
    intro place name found
    obtain ⟨field, fieldFound, granted⟩ := Shape.exists_grantsByPlace_of_expression derived found
    cases granted with
    | proctime behind => exact fieldFound
  case renamedProctime_eq =>
    intro place part name found
    obtain ⟨field, fieldFound, granted⟩ := Shape.exists_grantsByPlace_of_expression derived found
    cases granted with
    | renamedProctime behind => exact fieldFound
  case size_le =>
    have allowed := Shape.exists_fieldsByPlace_iff.mp ⟨_, derived⟩
    have compatible := (Expression.exists_checkAll_iff met).mp ⟨_, checked⟩
    have size_eq : schema.size = expressions.length := met.length_eq.symm
    rw [size_eq]
    exact Shape.length_le_of_allowsByPlace allowed compatible
  case kept_or_replaced =>
    intro place place_lt
    obtain ⟨inside, asked⟩ := Nat.lt_min.mp place_lt
    obtain ⟨type, typeFound⟩ := Shape.exists_typeAt?_iff.mpr inside
    obtain ⟨field, fieldFound, granted⟩ :=
      Shape.exists_grantsByPlace_of_expression derived (List.getElem?_eq_getElem asked)
    exact ⟨type, field, typeFound, fieldFound, granted.keeps_or_replaces typeFound⟩
  case rowtimes_le_one =>
    obtain ⟨-, compatible, -⟩ := Field.checkAll_eq_ok_iff.mp checked
    exact compatible.rowtimes_le_one
  case place_eq =>
    intro place field found taken physical
    obtain ⟨expression, granted⟩ := Shape.exists_grantsByPlace_of_field derived found
    exact granted.place_eq physical

/-- If no reference names a part of a positional shape, expressions have a schema exactly if they
may stand at their places and go together.  The schema is read in place. -/
theorem derive_byPlace (valid : settings.validate = .ok ())
    (access : shape.checkAccessible = .ok ()) (positional : shape.isPositional = true)
    (asked : expressions ≠ [])
    (unnamed : ∀ name, .reference name ∈ expressions → name ∉ shape.partNames) :
    ((∃ schema, settings.derive shape expressions = .ok schema) ↔
        (∀ place expression, expressions[place]? = some expression →
          shape.AllowsByPlace place expression) ∧
        Expression.Compatible expressions) ∧
      ∀ schema, settings.derive shape expressions = .ok schema →
        shape.ReadInPlace settings expressions schema := by
  have resolve_eq : shape.resolve settings.precision expressions =
      shape.fieldsByPlace settings.precision expressions := by
    rw [Shape.resolve_of_composite (Shape.isComposite_of_isPositional positional),
      Shape.readsByPlace_eq_true_iff.mpr ⟨positional, unnamed⟩, if_pos rfl]
  constructor
  · calc (∃ schema, settings.derive shape expressions = .ok schema)
        ↔ ∃ fields, shape.fieldsByPlace settings.precision expressions = .ok fields ∧
            ∃ hasRowtime, Field.checkAll fields = .ok hasRowtime := by
          rw [exists_derive_iff asked valid access, resolve_eq]
      _ ↔ ∃ fields, shape.fieldsByPlace settings.precision expressions = .ok fields ∧
            Expression.Compatible expressions :=
          exists_congr fun fields => and_congr_right fun derived =>
            Expression.exists_checkAll_iff (Shape.isMet_of_fieldsByPlace derived)
      _ ↔ _ := by
          rw [exists_and_right, Shape.exists_fieldsByPlace_iff]
  · intro schema derived
    obtain ⟨-, -, resolved, checked⟩ := (derive_eq_ok_iff asked).mp derived
    exact readInPlace_of_fieldsByPlace (resolve_eq ▸ resolved) checked

/-- Two parts with two time attributes behind them are the most that a pair can have.  Its first
part gives way to the row-time attribute where that stands alone, but not to a proc-time
attribute. -/
theorem derive_byPlace_pair :
    let longest : List Expression :=
      [.reference "id", .reference "name", .rowtime (.reference "at"),
        .renamed (.proctime (.reference "now")) "seen"]
    (∃ schema, derive {} .pair longest = .ok schema ∧
        Shape.pair.ReadInPlace {} longest schema ∧ schema.size = 4) ∧
      (∃ schema, derive {} .pair [.rowtime (.reference "at")] = .ok schema ∧
        Shape.pair.ReadInPlace {} [.rowtime (.reference "at")] schema) ∧
      ¬∃ schema, derive {} .pair [.proctime (.reference "now")] = .ok schema := by
  intro longest
  have byPlace := fun (expressions : List Expression) (asked : expressions ≠ [])
      (reads : Shape.pair.readsByPlace expressions = true) =>
    @derive_byPlace {} .pair expressions rfl rfl rfl asked
      (Shape.readsByPlace_eq_true_iff.mp reads).2
  refine ⟨?_, ?_, ?_⟩
  · obtain ⟨schema, derived⟩ : ∃ schema, derive {} .pair longest = .ok schema := ⟨_, rfl⟩
    obtain ⟨-, read⟩ := byPlace longest (List.cons_ne_nil _ _) rfl
    exact ⟨schema, derived, read schema derived, (read schema derived).size_eq⟩
  · obtain ⟨schema, derived⟩ : ∃ schema,
        derive {} .pair [.rowtime (.reference "at")] = .ok schema := ⟨_, rfl⟩
    obtain ⟨-, read⟩ := byPlace [.rowtime (.reference "at")] (List.cons_ne_nil _ _) rfl
    exact ⟨schema, derived, read schema derived⟩
  · obtain ⟨succeeds_iff, -⟩ :=
      byPlace [.proctime (.reference "now")] (List.cons_ne_nil _ _) rfl
    rw [succeeds_iff]
    rintro ⟨allowed, -⟩
    cases allowed 0 _ rfl with
    | proctime behind => cases behind

end Settings
end Tabulate
