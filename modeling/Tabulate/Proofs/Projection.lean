import Tabulate.Proofs.Chain

/-!
# Projections of projections

A projection takes parts of the input, renamed or not.  Taking columns of a table that was projected
itself is the same as taking the parts behind these columns at once.  The names of the table are
distinct, so every name of a column leads back to one expression of the first projection; and both
ways ask for the same names, so that they are refused alike.
-/

namespace Tabulate

/-- A part to take, and the name to take it under. -/
structure Projection where
  part : String
  name : String

namespace Expression

/-- What a reference takes, renamed or not. -/
def projection? : Expression → Option Projection
  | reference name => some { part := name, name }
  | renamed (reference part) name => some { part, name }
  | _ => none

/-- What `outer` asks of a table, asked of the input instead; the expressions `inner` made the
`columns` of the table, in order. -/
def inlined (inner : List Expression) (columns : List String) (outer : Expression) : Expression :=
  let direct? : Option Expression := do
    let wanted ← outer.projection?
    let source ← inner[columns.idxOf wanted.part]?
    let taken ← source.projection?
    some (.renamed (.reference taken.part) wanted.name)
  direct?.getD outer

theorem fieldByName_of_projection? {expression : Expression} {projection : Projection}
    (projects : expression.projection? = some projection) (precision : UInt8) (shape : Shape) :
    expression.fieldByName precision shape = shape.partField projection.part projection.name := by
  cases expression with
  | reference name =>
      cases projects
      rfl
  | renamed inner name =>
      cases inner with
      | reference part =>
          cases projects
          rfl
      | renamed inner other => cases projects
      | rowtime inner => cases projects
      | proctime inner => cases projects
      | unsupported description => cases projects
  | rowtime inner => cases projects
  | proctime inner => cases projects
  | unsupported description => cases projects

end Expression

/-- The second field is the first one, taken from the part behind its column. -/
structure Field.Through (projected : Schema) (field direct : Field) : Prop where
  name_eq : direct.name = field.name
  type_eq : direct.type = field.type
  origin : ∃ column place, field.origin = .physical column ∧
    projected.origins[column]? = some (.physical place) ∧ direct.origin = .physical place

/-- The last schema takes from the input what the second one takes from the table of the first. -/
structure Schema.Through (projected schema direct : Schema) : Prop where
  names_eq : direct.names = schema.names
  types_eq : direct.types = schema.types
  origins : ∀ place < schema.size, ∃ column source,
    schema.origins[place]? = some (.physical column) ∧
      projected.origins[column]? = some (.physical source) ∧
      direct.origins[place]? = some (.physical source)

namespace Field

variable {projected : Schema} {fields directs : List Field}

theorem Through.isPhysical {field direct : Field} (through : field.Through projected direct) :
    field.isPhysical = true ∧ direct.isPhysical = true := by
  obtain ⟨column, place, field_eq, -, direct_eq⟩ := through.origin
  exact ⟨isPhysical_eq_true_iff.mpr ⟨column, field_eq⟩,
    isPhysical_eq_true_iff.mpr ⟨place, direct_eq⟩⟩

/-- The checks across fields do not tell the two ways apart. -/
theorem checkAll_of_forall₂_through (through : List.Forall₂ (Through projected) fields directs) :
    checkAll directs = checkAll fields := by
  have names_eq := Outcome.map_eq_of_forall₂ through.flip fun _ _ => Through.name_eq
  have physical : ∀ field ∈ fields, field.isPhysical = true :=
    Outcome.forall_mem_of_forall₂ through.flip fun _ _ related => related.isPhysical.1
  have directPhysical : ∀ field ∈ directs, field.isPhysical = true :=
    Outcome.forall_mem_of_forall₂ through fun _ _ related => related.isPhysical.2
  rw [checkAll_of_physical physical, checkAll_of_physical directPhysical, names_eq]

theorem schemaThrough_of_forall₂ {hasRowtime : Bool}
    (through : List.Forall₂ (Through projected) fields directs) :
    projected.Through { fields, hasRowtime } { fields := directs, hasRowtime } where
  names_eq := Outcome.map_eq_of_forall₂ through.flip fun _ _ => Through.name_eq
  types_eq := Outcome.map_eq_of_forall₂ through.flip fun _ _ => Through.type_eq
  origins := by
    intro place inside
    obtain ⟨direct, directFound, related⟩ :=
      Outcome.exists_getElem?_of_forall₂ through (List.getElem?_eq_getElem inside)
    obtain ⟨column, source, field_eq, column_eq, direct_eq⟩ := related.origin
    refine ⟨column, source, ?_, column_eq, ?_⟩
    · rw [Schema.origins, List.getElem?_map, List.getElem?_eq_getElem inside, Option.map_some,
        field_eq]
    · rw [Schema.origins, List.getElem?_map, directFound, Option.map_some, direct_eq]

end Field

/-- The first part of a name, in a shape that was made of a derived table, is the column of that
name. -/
theorem Shape.isFirst_ofTable {declaration : Declaration} {projected : Schema} {positional : Bool}
    (distinct : projected.names.Nodup) {place : Nat} {field : Field}
    (found : projected.fields[place]? = some field) :
    (ofTable declaration projected.table positional).IsFirst field.name place field.type := by
  have part_eq : (ofTable declaration projected.table positional).parts[place]? =
      some field.column := by
    rw [parts_ofTable, Schema.table, List.getElem?_map, found, Option.map_some]
  have names_nodup : (ofTable declaration projected.table positional).partNames.Nodup := by
    rwa [partNames_ofTable, Schema.names_table]
  exact isFirst_of_nodup names_nodup part_eq

section TwoStages

variable {settings : Settings} {shape : Shape} {inner outer : List Expression} {projected : Schema}
  (composite : shape.isComposite = true) (named : shape.isPositional = false)
  (innerAsked : inner ≠ [])
  (innerProjects : ∀ expression ∈ inner, expression.projection?.isSome = true)
  (derived : settings.derive shape inner = .ok projected)
include composite named innerAsked innerProjects derived

/-- Every column of a projected table is the part that one of the projections takes. -/
theorem Settings.exists_source_of_column {column : String} (present : column ∈ projected.names) :
    ∃ source taken place type, inner[projected.names.idxOf column]? = some source ∧
      source.projection? = some taken ∧ shape.IsFirst taken.part place type ∧
      projected.fields[projected.names.idxOf column]? =
        some { name := column, origin := .physical place, type } := by
  have column_eq : projected.names[projected.names.idxOf column]? = some column :=
    List.getElem?_idxOf present
  obtain ⟨field, found, rfl⟩ : ∃ field,
      projected.fields[projected.names.idxOf column]? = some field ∧ field.name = column := by
    rwa [Schema.names, List.getElem?_map, Option.map_eq_some_iff] at column_eq
  obtain ⟨-, -, resolved, -⟩ := (derive_eq_ok_iff innerAsked).mp derived
  rw [Shape.resolve_byName composite (Shape.readsByPlace_of_not_isPositional named),
    Shape.fieldsByName, Outcome.mapM_eq_ok_iff] at resolved
  obtain ⟨source, asked, granted⟩ := Outcome.exists_getElem?_of_forall₂ resolved.flip found
  obtain ⟨taken, projects⟩ :=
    Option.isSome_iff_exists.mp (innerProjects source (List.mem_of_getElem? asked))
  rw [Expression.fieldByName_of_projection? projects] at granted
  obtain ⟨place, type, first, rfl⟩ := Shape.partField_eq_ok_iff.mp granted
  exact ⟨source, taken, place, type, asked, projects, first, found⟩

/-- What a projection is granted over the table, the inlined one is granted over the input. -/
theorem Expression.exists_through_inlined {expression : Expression} {wanted : Projection}
    (projects : expression.projection? = some wanted) (present : wanted.part ∈ projected.names) :
    ∃ field direct,
      expression.fieldByName settings.precision (.ofTable shape.declaration projected.table false) =
          .ok field ∧
        (expression.inlined inner projected.names).fieldByName settings.precision shape =
          .ok direct ∧
        field.Through projected direct := by
  obtain ⟨source, taken, place, type, asked, takes, first, found⟩ :=
    Settings.exists_source_of_column composite named innerAsked innerProjects derived present
  obtain ⟨-, compatible⟩ := Settings.compatible_of_derive derived
  have inlined_eq : expression.inlined inner projected.names =
      .renamed (.reference taken.part) wanted.name := by
    simp [inlined, projects, asked, takes]
  have origin_eq :
      projected.origins[projected.names.idxOf wanted.part]? = some (.physical place) := by
    rw [Schema.origins, List.getElem?_map, found, Option.map_some]
  refine ⟨{ name := wanted.name, origin := .physical (projected.names.idxOf wanted.part), type },
    { name := wanted.name, origin := .physical place, type }, ?_, ?_, rfl, rfl, _, _, rfl,
    origin_eq, rfl⟩
  · rw [fieldByName_of_projection? projects]
    exact Shape.partField_eq_ok_iff.mpr
      ⟨_, _, Shape.isFirst_ofTable compatible.names_nodup found, rfl⟩
  · rw [inlined_eq]
    exact Shape.fieldByName_eq_ok_iff.mpr (.renamed first)

theorem Shape.exists_through_inlined
    (outerProjects : ∀ expression ∈ outer, ∃ wanted, expression.projection? = some wanted ∧
      wanted.part ∈ projected.names) :
    ∃ fields directs,
      (ofTable shape.declaration projected.table false).fieldsByName settings.precision outer =
          .ok fields ∧
        shape.fieldsByName settings.precision (outer.map (.inlined inner projected.names)) =
          .ok directs ∧
        List.Forall₂ (Field.Through projected) fields directs := by
  simp only [fieldsByName, Outcome.mapM_eq_ok_iff]
  induction outer with
  | nil => exact ⟨[], [], .nil, .nil, .nil⟩
  | cons expression outer ih =>
      obtain ⟨⟨wanted, projects, present⟩, outerProjects⟩ := List.forall_mem_cons.mp outerProjects
      obtain ⟨field, direct, granted, directGranted, related⟩ :=
        Expression.exists_through_inlined composite named innerAsked innerProjects derived
          projects present
      obtain ⟨fields, directs, rest, directRest, through⟩ := ih outerProjects
      exact ⟨field :: fields, direct :: directs, .cons granted rest,
        .cons directGranted directRest, .cons related through⟩

end TwoStages

namespace Settings

/-- Projecting a projected table is projecting its input with the inlined expressions: both are
refused alike, or they take the same names and types from the same parts. -/
theorem derive_inlined {settings : Settings} {shape : Shape} {inner outer : List Expression}
    {projected : Schema} (composite : shape.isComposite = true) (named : shape.isPositional = false)
    (innerAsked : inner ≠ [])
    (innerProjects : ∀ expression ∈ inner, expression.projection?.isSome = true)
    (derived : settings.derive shape inner = .ok projected) (outerAsked : outer ≠ [])
    (outerProjects : ∀ expression ∈ outer, ∃ wanted, expression.projection? = some wanted ∧
      wanted.part ∈ projected.names) :
    (∃ fault,
        settings.derive (.ofTable shape.declaration projected.table false) outer = .error fault ∧
          settings.derive shape (outer.map (.inlined inner projected.names)) = .error fault) ∨
      ∃ schema direct,
        settings.derive (.ofTable shape.declaration projected.table false) outer = .ok schema ∧
          settings.derive shape (outer.map (.inlined inner projected.names)) = .ok direct ∧
          projected.Through schema direct := by
  have valid := validate_of_derive derived
  have access : shape.checkAccessible = .ok () :=
    Shape.checkAccessible_eq_ok_iff.mpr (isAccessible_of_derive derived)
  have tableAccess : (Shape.ofTable shape.declaration projected.table false).checkAccessible =
      .ok () := (Shape.carries_ofTable derived).accessible
  have directAsked : outer.map (Expression.inlined inner projected.names) ≠ [] := by
    simpa using outerAsked
  obtain ⟨fields, directs, resolved, directResolved, through⟩ :=
    Shape.exists_through_inlined composite named innerAsked innerProjects derived outerProjects
  have resolve_eq : (Shape.ofTable shape.declaration projected.table false).resolve
      settings.precision outer = .ok fields := by
    rwa [Shape.resolve_byName Shape.isComposite_ofTable rfl]
  have directResolve_eq : shape.resolve settings.precision
      (outer.map (.inlined inner projected.names)) = .ok directs := by
    rwa [Shape.resolve_byName composite (Shape.readsByPlace_of_not_isPositional named)]
  -- Both ways stand before the same checks, with fields that these do not tell apart.
  rw [derive_of_ne_nil outerAsked, derive_of_ne_nil directAsked, valid, access, tableAccess,
    resolve_eq, directResolve_eq]
  simp only [Outcome.ok_bind, Field.checkAll_of_forall₂_through through]
  cases checked : Field.checkAll fields with
  | error fault => exact .inl ⟨fault, rfl, rfl⟩
  | ok hasRowtime => exact .inr ⟨_, _, rfl, rfl, Field.schemaThrough_of_forall₂ through⟩

/-- A pair is swapped under other names, and swapped back; giving one name twice is refused. -/
theorem derive_inlined_pair :
    (∃ projected schema direct,
        derive {} .namedPair [.renamed (.reference "f1") "text", .reference "f0"] = .ok projected ∧
          derive {} (.ofTable Shape.namedPair.declaration projected.table false)
            [.renamed (.reference "f0") "number", .reference "text"] = .ok schema ∧
          derive {} .namedPair
            [.renamed (.reference "f0") "number", .renamed (.reference "f1") "text"] =
              .ok direct ∧
          projected.Through schema direct) ∧
      ∃ projected fault,
        derive {} .namedPair [.renamed (.reference "f1") "text", .reference "f0"] = .ok projected ∧
          derive {} (.ofTable Shape.namedPair.declaration projected.table false)
            [.reference "f0", .renamed (.reference "text") "f0"] = .error fault ∧
          derive {} .namedPair
            [.renamed (.reference "f0") "f0", .renamed (.reference "f1") "f0"] =
              .error fault := by
  obtain ⟨projected, derived, names_eq⟩ : ∃ projected,
      derive {} .namedPair [.renamed (.reference "f1") "text", .reference "f0"] = .ok projected ∧
        projected.names = ["text", "f0"] := ⟨_, rfl, rfl⟩
  have innerProjects :
      ∀ expression ∈ ([.renamed (.reference "f1") "text", .reference "f0"] : List Expression),
        expression.projection?.isSome = true := by decide
  constructor
  · have outerProjects :
        ∀ expression ∈
          ([.renamed (.reference "f0") "number", .reference "text"] : List Expression),
          ∃ wanted, expression.projection? = some wanted ∧ wanted.part ∈ projected.names := by
      simp [Expression.projection?, names_eq]
    obtain ⟨fault, refused, -⟩ | ⟨schema, direct, taken, directTaken, through⟩ :=
      derive_inlined rfl rfl (List.cons_ne_nil _ _) innerProjects derived (List.cons_ne_nil _ _)
        outerProjects
    · cases derived
      cases refused
    · rw [names_eq] at directTaken
      exact ⟨projected, schema, direct, derived, taken, directTaken, through⟩
  · have outerProjects :
        ∀ expression ∈ ([.reference "f0", .renamed (.reference "text") "f0"] : List Expression),
          ∃ wanted, expression.projection? = some wanted ∧ wanted.part ∈ projected.names := by
      simp [Expression.projection?, names_eq]
    obtain ⟨fault, refused, directRefused⟩ | ⟨schema, direct, taken, -⟩ :=
      derive_inlined rfl rfl (List.cons_ne_nil _ _) innerProjects derived (List.cons_ne_nil _ _)
        outerProjects
    · rw [names_eq] at directRefused
      exact ⟨projected, fault, derived, refused, directRefused⟩
    · cases derived
      cases taken

end Settings
end Tabulate
