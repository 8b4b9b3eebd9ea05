import Tabulate.Proofs.Demand

/-!
# Derivations around a lone value

A lone value has no name, so a plain reference stands for it, whatever name it uses, and a second
one is refused while the expressions are gone through.  Time attributes, renamed or not, need a
plain reference as well, but they are counted only in the end.  So a lone value has at most three
fields, and what its type is does not matter for any of this.
-/

namespace Tabulate

/-- The expression may be asked of a lone value. -/
inductive Expression.SuitsLone : Expression → Prop
  /-- A reference names the value. -/
  | reference {name : String} : SuitsLone (.reference name)
  /-- A row-time attribute is added. -/
  | rowtime {name : String} : SuitsLone (.rowtime (.reference name))
  /-- A row-time attribute is added under another name. -/
  | renamedRowtime {part name : String} : SuitsLone (.renamed (.rowtime (.reference part)) name)
  /-- A proc-time attribute is added. -/
  | proctime {name : String} : SuitsLone (.proctime (.reference name))
  /-- A proc-time attribute is added under another name. -/
  | renamedProctime {part name : String} : SuitsLone (.renamed (.proctime (.reference part)) name)

/-- What a derivation around a lone value makes of its expressions. -/
structure ColumnType.ReadAround (settings : Settings) (type : ColumnType)
    (expressions : List Expression) (schema : Schema) : Prop where
  /-- Each expression has one field, under the name it asks for. -/
  names_eq : schema.names = expressions.map Expression.outputName
  /-- A reference is the value, numbered by the place of the reference. -/
  reference_eq : ∀ (place : Nat) (name : String),
    expressions[place]? = some (.reference name) →
      schema.fields[place]? = some { name, origin := .physical place, type }
  /-- Time attributes have the precision of the settings. -/
  timed : Expression.Timed settings.precision expressions schema.fields

namespace Expression

/-- What suits a lone value and is no plain reference asks for a time attribute. -/
theorem SuitsLone.asks {expression : Expression} (suits : expression.SuitsLone)
    (other : expression.reference? = none) :
    expression.asksRowtime = true ∨ expression.asksProctime = true := by
  cases suits with
  | reference => cases other
  | rowtime => exact .inl rfl
  | renamedRowtime => exact .inl rfl
  | proctime => exact .inr rfl
  | renamedProctime => exact .inr rfl

/-- One plain reference and one time attribute of each kind are the most that can suit a lone value
together. -/
theorem length_le_three_of_suitsLone {expressions : List Expression}
    (suit : ∀ expression ∈ expressions, expression.SuitsLone)
    (single : expressions.countP (·.reference?.isSome) ≤ 1)
    (compatible : Compatible expressions) : expressions.length ≤ 3 := by
  let timed := expressions.filter fun expression => ¬expression.reference?.isSome
  have timed_le : timed.length ≤ 2 := by
    apply compatible.length_le_two List.filter_sublist
    intro expression member
    obtain ⟨asked, other⟩ := List.mem_filter.mp member
    exact (suit expression asked).asks (by simpa using other)
  calc expressions.length
      = expressions.countP (·.reference?.isSome) + timed.length := by
        rw [← List.countP_eq_length_filter]
        exact List.length_eq_countP_add_countP _
    _ ≤ 1 + 2 := Nat.add_le_add single timed_le

end Expression

namespace ColumnType

variable {precision : UInt8} {type : ColumnType} {place : Nat} {expression : Expression}
  {field : Field}

/-- At any place, exactly the expressions that suit a lone value are granted a field. -/
theorem exists_grantsAround_iff :
    (∃ field, type.GrantsAround precision place expression field) ↔ expression.SuitsLone := by
  constructor
  · rintro ⟨field, granted⟩
    cases granted with
    | reference => exact .reference
    | rowtime => exact .rowtime
    | renamedRowtime => exact .renamedRowtime
    | proctime => exact .proctime
    | renamedProctime => exact .renamedProctime
  · intro suits
    cases suits with
    | reference => exact ⟨_, .reference⟩
    | rowtime => exact ⟨_, .rowtime⟩
    | renamedRowtime => exact ⟨_, .renamedRowtime⟩
    | proctime => exact ⟨_, .proctime⟩
    | renamedProctime => exact ⟨_, .renamedProctime⟩

theorem GrantsAround.isMet (granted : type.GrantsAround precision place expression field) :
    expression.IsMet field := by
  cases granted with
  | reference => exact ⟨rfl, rfl, rfl⟩
  | rowtime => exact ⟨rfl, rfl, rfl⟩
  | renamedRowtime => exact ⟨rfl, rfl, rfl⟩
  | proctime => exact ⟨rfl, rfl, rfl⟩
  | renamedProctime => exact ⟨rfl, rfl, rfl⟩

/-! ## Lists of expressions -/

variable {expressions : List Expression} {fields : List Field}

/-- Fields are granted around a lone value exactly to expressions that suit it and among which at
most one is a plain reference. -/
theorem exists_fieldsAround_iff :
    (∃ fields, type.fieldsAround precision expressions = .ok fields) ↔
      (∀ expression ∈ expressions, expression.SuitsLone) ∧
        expressions.countP (·.reference?.isSome) ≤ 1 := by
  simp only [fieldsAround_eq_ok_iff, exists_and_right, Outcome.exists_forall₂_iff,
    exists_grantsAround_iff]
  refine and_congr_left fun _ => ?_
  conv_rhs => rw [← List.zipIdx_map_fst 0 expressions, List.forall_mem_map]

/-- Fields that are granted around a lone value are what the expressions ask for. -/
theorem isMet_of_fieldsAround (derived : type.fieldsAround precision expressions = .ok fields) :
    List.Forall₂ Expression.IsMet expressions fields := by
  obtain ⟨granted, -⟩ := fieldsAround_eq_ok_iff.mp derived
  have met := granted.imp fun _ _ => GrantsAround.isMet
  rwa [← List.forall₂_map_left_iff, List.zipIdx_map_fst] at met

end ColumnType

namespace Settings

variable {settings : Settings} {shape : Shape} {type : ColumnType} {expressions : List Expression}
  {schema : Schema}

/-- Fields that are granted around a lone value are read around it. -/
theorem readAround_of_fieldsAround
    (derived : type.fieldsAround settings.precision expressions = .ok schema.fields) :
    type.ReadAround settings expressions schema := by
  obtain ⟨granted, -⟩ := ColumnType.fieldsAround_eq_ok_iff.mp derived
  have met := ColumnType.isMet_of_fieldsAround derived
  constructor
  case names_eq =>
    exact (Outcome.map_eq_of_forall₂ met fun _ _ => Expression.IsMet.name_eq).symm
  case reference_eq =>
    intro place name asked
    have numbered : expressions.zipIdx[place]? = some (.reference name, place) := by
      simp [List.getElem?_zipIdx, asked]
    obtain ⟨field, found, fieldGranted⟩ := Outcome.exists_getElem?_of_forall₂ granted numbered
    cases fieldGranted with
    | reference => exact found
  case timed =>
    exact Expression.timed_of_isMet met
      (Outcome.forall_mem_of_forall₂ granted fun _ _ => ColumnType.GrantsAround.sourced)

/-- Around a lone value, expressions have a schema exactly if they suit it, at most one of them is a
plain reference, and they go together.  The schema is read around the value, and there are at most
three expressions. -/
theorem derive_aroundLone (valid : settings.validate = .ok ())
    (access : shape.checkAccessible = .ok ()) (lone : shape.layout = .atomic type)
    (asked : expressions ≠ []) :
    ((∃ schema, settings.derive shape expressions = .ok schema) ↔
        (∀ expression ∈ expressions, expression.SuitsLone) ∧
        expressions.countP (·.reference?.isSome) ≤ 1 ∧
        Expression.Compatible expressions) ∧
      ∀ schema, settings.derive shape expressions = .ok schema →
        type.ReadAround settings expressions schema ∧ expressions.length ≤ 3 := by
  have resolve_eq : shape.resolve settings.precision expressions =
      type.fieldsAround settings.precision expressions := by
    simp only [Shape.resolve, lone]
  have met : ∀ fields, shape.resolve settings.precision expressions = .ok fields →
      List.Forall₂ Expression.IsMet expressions fields := by
    rw [resolve_eq]
    exact fun fields => ColumnType.isMet_of_fieldsAround
  have succeeds_iff : (∃ schema, settings.derive shape expressions = .ok schema) ↔
      (∀ expression ∈ expressions, expression.SuitsLone) ∧
        expressions.countP (·.reference?.isSome) ≤ 1 ∧ Expression.Compatible expressions := by
    rw [exists_derive_iff_compatible asked valid access met, resolve_eq,
      ColumnType.exists_fieldsAround_iff, and_assoc]
  refine ⟨succeeds_iff, fun schema derived => ⟨?_, ?_⟩⟩
  · obtain ⟨-, -, resolved, -⟩ := (derive_eq_ok_iff asked).mp derived
    exact readAround_of_fieldsAround (resolve_eq ▸ resolved)
  · obtain ⟨suit, single, compatible⟩ := succeeds_iff.mp ⟨schema, derived⟩
    exact Expression.length_le_three_of_suitsLone suit single compatible

/-- A number can have both time attributes beside it, and its reference keeps its place between
them.  It can be referred to only once, and not under another name. -/
theorem derive_aroundLone_amount :
    let longest : List Expression :=
      [.renamed (.rowtime (.reference "at")) "seen", .reference "amount",
        .proctime (.reference "now")]
    (∃ schema, derive {} .amount longest = .ok schema ∧
        ColumnType.double.ReadAround {} longest schema ∧ longest.length ≤ 3) ∧
      (¬∃ schema, derive {} .amount [.reference "left", .reference "right"] = .ok schema) ∧
      ¬∃ schema, derive {} .amount [.renamed (.reference "amount") "total"] = .ok schema := by
  intro longest
  have aroundLone := fun (expressions : List Expression) (asked : expressions ≠ []) =>
    @derive_aroundLone {} .amount .double expressions rfl rfl rfl asked
  refine ⟨?_, ?_, ?_⟩
  · obtain ⟨schema, derived⟩ : ∃ schema, derive {} .amount longest = .ok schema := ⟨_, rfl⟩
    obtain ⟨-, read⟩ := aroundLone longest (List.cons_ne_nil _ _)
    exact ⟨schema, derived, read schema derived⟩
  · obtain ⟨succeeds_iff, -⟩ :=
      aroundLone [.reference "left", .reference "right"] (List.cons_ne_nil _ _)
    rw [succeeds_iff]
    rintro ⟨-, single, -⟩
    exact absurd single (by decide)
  · obtain ⟨succeeds_iff, -⟩ :=
      aroundLone [.renamed (.reference "amount") "total"] (List.cons_ne_nil _ _)
    rw [succeeds_iff]
    rintro ⟨suit, -, -⟩
    cases suit _ List.mem_cons_self

end Settings
end Tabulate
