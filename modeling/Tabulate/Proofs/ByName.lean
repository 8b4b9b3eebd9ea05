import Tabulate.Proofs.Demand
import Tabulate.Proofs.Projection

/-!
# Derivations by name

What is asked of a shape whose parts are called by name can be answered one expression at a time.  A
reference needs a part of its name, and a proc-time attribute must find none.  A row-time attribute
may find a part if the type of the first one allows it to give way, and must find one if it is
renamed.  When a name is repeated, all of this is about its first part.
-/

namespace Tabulate

namespace Shape

/-- The expression may be asked of a shape when references name its parts. -/
inductive AllowsByName (shape : Shape) : Expression → Prop
  /-- A reference names a part. -/
  | reference {name : String} (present : name ∈ shape.partNames) :
      AllowsByName shape (.reference name)
  /-- A reference under another name names a part. -/
  | renamed {part name : String} (present : part ∈ shape.partNames) :
      AllowsByName shape (.renamed (.reference part) name)
  /-- A row-time attribute is added. -/
  | rowtime {name : String} (absent : name ∉ shape.partNames) :
      AllowsByName shape (.rowtime (.reference name))
  /-- A row-time attribute takes the name of a part whose type allows it. -/
  | replacement {name : String} {place : Nat} {type : ColumnType}
      (first : shape.IsFirst name place type) (timed : type.canBeRowtime = true) :
      AllowsByName shape (.rowtime (.reference name))
  /-- A row-time attribute under another name refers to a part whose type allows it. -/
  | renamedReplacement {part name : String} {place : Nat} {type : ColumnType}
      (first : shape.IsFirst part place type) (timed : type.canBeRowtime = true) :
      AllowsByName shape (.renamed (.rowtime (.reference part)) name)
  /-- A proc-time attribute is added. -/
  | proctime {name : String} (absent : name ∉ shape.partNames) :
      AllowsByName shape (.proctime (.reference name))
  /-- A proc-time attribute is added under another name. -/
  | renamedProctime {part name : String} (absent : part ∉ shape.partNames) :
      AllowsByName shape (.renamed (.proctime (.reference part)) name)

/-- What a derivation by name makes of its expressions. -/
structure ReadByName (settings : Settings) (shape : Shape) (expressions : List Expression)
    (schema : Schema) : Prop where
  /-- Each expression has one field, under the name it asks for. -/
  names_eq : schema.names = expressions.map Expression.outputName
  /-- A reference, renamed or not, is the first part of the name it refers to. -/
  part_eq : ∀ (place : Nat) (expression : Expression) (projection : Projection),
    expressions[place]? = some expression → expression.projection? = some projection →
      ∃ taken type, shape.IsFirst projection.part taken type ∧
        schema.fields[place]? =
          some { name := projection.name, origin := .physical taken, type }
  /-- Time attributes have the precision of the settings. -/
  timed : Expression.Timed settings.precision expressions schema.fields

/-- Rows of a text and a 64-bit integer under one name. -/
def homonyms : Shape :=
  record { name := some "Homonyms" }
    [{ name := "f0", type := .varchar }, { name := "f0", type := .bigInt }]

variable {precision : UInt8} {shape : Shape} {expression : Expression} {field : Field}

/-- Exactly the expressions that may be asked of a shape are granted a field. -/
theorem exists_grantsByName_iff :
    (∃ field, shape.GrantsByName precision expression field) ↔ shape.AllowsByName expression := by
  constructor
  · rintro ⟨field, granted⟩
    cases granted with
    | reference first => exact .reference first.mem_partNames
    | renamed first => exact .renamed first.mem_partNames
    | @rowtime name givesWay =>
        by_cases present : name ∈ shape.partNames
        · obtain ⟨place, type, first⟩ := exists_isFirst_iff.mpr present
          exact .replacement first (givesWay place type first)
        · exact .rowtime present
    | renamedRowtime present givesWay =>
        obtain ⟨place, type, first⟩ := exists_isFirst_iff.mpr present
        exact .renamedReplacement first (givesWay place type first)
    | proctime absent => exact .proctime absent
    | renamedProctime absent => exact .renamedProctime absent
  · intro allowed
    cases allowed with
    | reference present =>
        obtain ⟨place, type, first⟩ := exists_isFirst_iff.mpr present
        exact ⟨_, .reference first⟩
    | renamed present =>
        obtain ⟨place, type, first⟩ := exists_isFirst_iff.mpr present
        exact ⟨_, .renamed first⟩
    | rowtime absent => exact ⟨_, .rowtime (givesWay_of_notMem absent)⟩
    | replacement first timed => exact ⟨_, .rowtime (first.givesWay_iff.mpr timed)⟩
    | renamedReplacement first timed =>
        exact ⟨_, .renamedRowtime first.mem_partNames (first.givesWay_iff.mpr timed)⟩
    | proctime absent => exact ⟨_, .proctime absent⟩
    | renamedProctime absent => exact ⟨_, .renamedProctime absent⟩

theorem GrantsByName.isMet (granted : shape.GrantsByName precision expression field) :
    expression.IsMet field := by
  cases granted with
  | reference first => exact ⟨rfl, rfl, rfl⟩
  | renamed first => exact ⟨rfl, rfl, rfl⟩
  | rowtime givesWay => exact ⟨rfl, rfl, rfl⟩
  | renamedRowtime present givesWay => exact ⟨rfl, rfl, rfl⟩
  | proctime absent => exact ⟨rfl, rfl, rfl⟩
  | renamedProctime absent => exact ⟨rfl, rfl, rfl⟩

/-- A reference, renamed or not, is granted the first part of the name it refers to. -/
theorem GrantsByName.exists_isFirst (granted : shape.GrantsByName precision expression field)
    {projection : Projection} (projects : expression.projection? = some projection) :
    ∃ taken type, shape.IsFirst projection.part taken type ∧
      field = { name := projection.name, origin := .physical taken, type } := by
  have derived := fieldByName_eq_ok_iff.mpr granted
  rw [Expression.fieldByName_of_projection? projects] at derived
  exact partField_eq_ok_iff.mp derived

/-! ## Lists of expressions -/

variable {expressions : List Expression} {fields : List Field}

/-- Fields are granted by name exactly to expressions that may be asked of the shape. -/
theorem exists_fieldsByName_iff :
    (∃ fields, shape.fieldsByName precision expressions = .ok fields) ↔
      ∀ expression ∈ expressions, shape.AllowsByName expression := by
  simp only [fieldsByName_eq_ok_iff, Outcome.exists_forall₂_iff, exists_grantsByName_iff]

/-- Fields that are granted by name are what the expressions ask for. -/
theorem isMet_of_fieldsByName (derived : shape.fieldsByName precision expressions = .ok fields) :
    List.Forall₂ Expression.IsMet expressions fields :=
  (fieldsByName_eq_ok_iff.mp derived).imp fun _ _ => GrantsByName.isMet

/-- A shape is read by name if it is not positional, or if a reference names one of its parts. -/
theorem readsByPlace_eq_false_iff :
    shape.readsByPlace expressions = false ↔
      shape.isPositional = false ∨
        ∃ name ∈ shape.partNames, .reference name ∈ expressions := by
  rw [← Bool.not_eq_true, readsByPlace_eq_true_iff, not_and_or, Bool.not_eq_true]
  refine or_congr_right ?_
  push Not
  exact exists_congr fun name => and_comm

end Shape

namespace Settings

variable {settings : Settings} {shape : Shape} {expressions : List Expression} {schema : Schema}

/-- Fields that are granted by name are read by name. -/
theorem readByName_of_fieldsByName
    (derived : shape.fieldsByName settings.precision expressions = .ok schema.fields) :
    shape.ReadByName settings expressions schema := by
  have granted := Shape.fieldsByName_eq_ok_iff.mp derived
  have met := Shape.isMet_of_fieldsByName derived
  constructor
  case names_eq =>
    exact (Outcome.map_eq_of_forall₂ met fun _ _ => Expression.IsMet.name_eq).symm
  case part_eq =>
    intro place expression projection asked projects
    obtain ⟨field, found, fieldGranted⟩ := Outcome.exists_getElem?_of_forall₂ granted asked
    obtain ⟨taken, type, first, rfl⟩ := fieldGranted.exists_isFirst projects
    exact ⟨taken, type, first, found⟩
  case timed =>
    exact Expression.timed_of_isMet met
      (Outcome.forall_mem_of_forall₂ granted fun _ _ => Shape.GrantsByName.sourced)

/-- If a composite shape is not positional, or a reference names one of its parts, expressions have
a schema exactly if they may be asked of the shape and go together.  The schema is read by name. -/
theorem derive_byName (valid : settings.validate = .ok ())
    (access : shape.checkAccessible = .ok ()) (composite : shape.isComposite = true)
    (asked : expressions ≠ [])
    (named : shape.isPositional = false ∨
      ∃ name ∈ shape.partNames, .reference name ∈ expressions) :
    ((∃ schema, settings.derive shape expressions = .ok schema) ↔
        (∀ expression ∈ expressions, shape.AllowsByName expression) ∧
        Expression.Compatible expressions) ∧
      ∀ schema, settings.derive shape expressions = .ok schema →
        shape.ReadByName settings expressions schema := by
  have resolve_eq : shape.resolve settings.precision expressions =
      shape.fieldsByName settings.precision expressions :=
    Shape.resolve_byName composite (Shape.readsByPlace_eq_false_iff.mpr named)
  have met : ∀ fields, shape.resolve settings.precision expressions = .ok fields →
      List.Forall₂ Expression.IsMet expressions fields := by
    rw [resolve_eq]
    exact fun fields => Shape.isMet_of_fieldsByName
  constructor
  · rw [exists_derive_iff_compatible asked valid access met, resolve_eq,
      Shape.exists_fieldsByName_iff]
  · intro schema derived
    obtain ⟨-, -, resolved, -⟩ := (derive_eq_ok_iff asked).mp derived
    exact readByName_of_fieldsByName (resolve_eq ▸ resolved)

/-- A reference to a part has a pair read by name, so that the other expressions may rename.  Of two
parts of one name, the first is taken; since it is a text, it does not give way to the row-time
attribute. -/
theorem derive_byName_homonyms :
    let renamings : List Expression :=
      [.reference "f1", .renamed (.reference "f1") "copy",
        .renamed (.rowtime (.reference "f0")) "at", .renamed (.proctime (.reference "now")) "seen"]
    (∃ schema, derive {} .pair renamings = .ok schema ∧
        Shape.pair.ReadByName {} renamings schema ∧
        schema.names = ["f1", "copy", "at", "seen"]) ∧
      (∃ schema, derive {} .homonyms [.reference "f0"] = .ok schema ∧
        Shape.homonyms.ReadByName {} [.reference "f0"] schema) ∧
      ¬∃ schema, derive {} .homonyms [.rowtime (.reference "f0")] = .ok schema := by
  intro renamings
  refine ⟨?_, ?_, ?_⟩
  · obtain ⟨schema, derived⟩ : ∃ schema, derive {} .pair renamings = .ok schema := ⟨_, rfl⟩
    obtain ⟨-, read⟩ := @derive_byName {} .pair renamings rfl rfl rfl (List.cons_ne_nil _ _)
      (.inr ⟨"f1", by decide, by decide⟩)
    exact ⟨schema, derived, read schema derived, (read schema derived).names_eq⟩
  · obtain ⟨schema, derived⟩ : ∃ schema, derive {} .homonyms [.reference "f0"] = .ok schema :=
      ⟨_, rfl⟩
    obtain ⟨-, read⟩ := @derive_byName {} .homonyms [.reference "f0"] rfl rfl rfl
      (List.cons_ne_nil _ _) (.inl rfl)
    exact ⟨schema, derived, read schema derived⟩
  · obtain ⟨succeeds_iff, -⟩ := @derive_byName {} .homonyms [.rowtime (.reference "f0")] rfl rfl rfl
      (List.cons_ne_nil _ _) (.inl rfl)
    rw [succeeds_iff]
    rintro ⟨allowed, -⟩
    cases allowed _ List.mem_cons_self with
    | rowtime absent => exact absent (by decide)
    | replacement first timed =>
        have text : Shape.homonyms.IsFirst "f0" 0 .varchar := ⟨rfl, nofun⟩
        obtain ⟨-, rfl⟩ := first.unique text
        cases timed

end Settings
end Tabulate
