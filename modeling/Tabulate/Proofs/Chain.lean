import Tabulate.Pipeline
import Tabulate.Proofs.Derive

/-!
# Chains of derivations

The table of one stage is the input of the next.  A table has the distinct names of its schema, none
of them the star, so a shape made of it can always be taken as it is.  Taking it gives the columns
of the schema back, each from its own place.  A refused stage changes nothing.  Hence the shape
behind every stage of a chain stands for the last schema that was derived.
-/

namespace Tabulate

/-- The columns of a schema once more, each taken from its own place. -/
structure Schema.Retaken (schema again : Schema) : Prop where
  names_eq : again.names = schema.names
  types_eq : again.types = schema.types
  origins_eq : again.origins = (List.range schema.size).map .physical
  hasRowtime_eq : again.hasRowtime = false
  table_eq : again.table = schema.table

/-- A shape that stands for a schema: it can be taken as it is, and then has the same columns. -/
structure Shape.Carries (settings : Settings) (schema : Schema) (shape : Shape) : Prop where
  composite : shape.isComposite = true
  accessible : shape.checkAccessible = .ok ()
  names_nodup : shape.partNames.Nodup
  star_notMem : "*" ∉ shape.partNames
  taken : ∃ again, settings.schemaOf shape = .ok again ∧ schema.Retaken again

/-- The last schema among the outcomes of a chain. -/
def lastSchema? : List (Except Fault Schema × Shape) → Option Schema
  | [] => none
  | outcome :: outcomes => (lastSchema? outcomes).or outcome.1.toOption

/-! ## Tables as shapes -/

namespace Shape

variable {declaration : Declaration} {table : Table} {positional : Bool}

theorem isComposite_ofTable : (ofTable declaration table positional).isComposite = true := rfl

theorem parts_ofTable : (ofTable declaration table positional).parts = table.columns := rfl

theorem partNames_ofTable : (ofTable declaration table positional).partNames = table.names := rfl

end Shape

section Derived

variable {settings : Settings} {shape : Shape} {expressions : List Expression} {schema : Schema}
  {positional : Bool}

/-- The fields of a shape that was made of a table are the columns of the table. -/
theorem Shape.retaken_partFields {declaration : Declaration} :
    schema.Retaken
      { fields := (ofTable declaration schema.table positional).partFields
        hasRowtime := false } where
  names_eq := by
    rw [Schema.names, map_name_partFields, partNames_ofTable, Schema.names_table]
  types_eq := by
    rw [Schema.types, map_type_partFields, parts_ofTable]
    simp [Schema.types, Schema.table, Field.column, Function.comp_def]
  origins_eq := by
    rw [Schema.origins, map_origin_partFields, Shape.arity, parts_ofTable]
    simp [Schema.table, Schema.size]
  hasRowtime_eq := rfl
  table_eq := by
    rw [Schema.table, map_column_partFields, parts_ofTable]

/-- The table of a derived schema is an input that stands for the schema. -/
theorem Shape.carries_ofTable (derived : settings.derive shape expressions = .ok schema) :
    (ofTable shape.declaration schema.table positional).Carries settings schema := by
  obtain ⟨schemaStarless, compatible⟩ := Settings.compatible_of_derive derived
  have accessible := Settings.isAccessible_of_derive derived
  have access : (ofTable shape.declaration schema.table positional).checkAccessible = .ok () :=
    checkAccessible_eq_ok_iff.mpr accessible
  have names_eq : (ofTable shape.declaration schema.table positional).partNames =
      schema.names := by
    rw [partNames_ofTable, Schema.names_table]
  have starless : "*" ∉ (ofTable shape.declaration schema.table positional).partNames :=
    names_eq ▸ schemaStarless
  have distinct : (ofTable shape.declaration schema.table positional).partNames.Nodup :=
    names_eq ▸ compatible.names_nodup
  have taken := Settings.schemaOf_of_distinct (Settings.validate_of_derive derived)
    isComposite_ofTable access starless distinct
  exact ⟨isComposite_ofTable, access, distinct, starless, _, taken, retaken_partFields⟩

end Derived

/-! ## Runs -/

variable {settings : Settings} {before : Option Schema} {shape : Shape}

/-- A stage leaves a shape that stands for its schema, or for the schema before it if the stage is
refused. -/
theorem Stage.carries_of_run {stage : Stage} {schema : Schema}
    (carried : ∀ schema, before = some schema → shape.Carries settings schema)
    (last : (stage.run settings shape).1.toOption.or before = some schema) :
    (stage.run settings shape).2.Carries settings schema := by
  cases derived : settings.derive shape stage.expressions with
  | error fault =>
      simp only [run, derived, Except.toOption, Option.none_or] at last ⊢
      exact carried schema last
  | ok result =>
      simp only [run, derived, Except.toOption, Option.some_or, Option.some.injEq] at last ⊢
      subst last
      exact Shape.carries_ofTable derived

/-- The shape at every point of a chain stands for the last schema before it, where `before` is
what the first shape stands for. -/
theorem Settings.carries_of_chain_from {stages : List Stage} {place : Nat}
    {outcome : Except Fault Schema × Shape} {schema : Schema}
    (carried : ∀ schema, before = some schema → shape.Carries settings schema)
    (reached : (settings.chain shape stages)[place]? = some outcome)
    (last : (lastSchema? ((settings.chain shape stages).take (place + 1))).or before =
      some schema) :
    outcome.2.Carries settings schema := by
  induction stages generalizing shape before place with
  | nil => simp [chain] at reached
  | cons stage stages ih =>
      -- What holds behind the first stage is what the rest of the chain starts from.
      have carriedOn : ∀ schema, (stage.run settings shape).1.toOption.or before = some schema →
          (stage.run settings shape).2.Carries settings schema :=
        fun schema => Stage.carries_of_run carried
      cases place with
      | zero =>
          obtain rfl := Option.some.inj reached
          apply carriedOn
          simpa [chain, lastSchema?] using last
      | succ place =>
          apply ih carriedOn reached
          simpa only [chain, List.take_succ_cons, lastSchema?, Option.or_assoc] using last

/-- Behind every stage of a chain, once a schema has been derived, the shape can be taken as it is,
and it has the columns of the last schema. -/
theorem Settings.carries_of_chain {stages : List Stage} {place : Nat}
    {outcome : Except Fault Schema × Shape} {schema : Schema}
    (reached : (settings.chain shape stages)[place]? = some outcome)
    (last : lastSchema? ((settings.chain shape stages).take (place + 1)) = some schema) :
    outcome.2.Carries settings schema := by
  have carried : ∀ schema, none = some schema → shape.Carries settings schema := by
    intro schema impossible
    cases impossible
  apply carries_of_chain_from carried reached
  rwa [Option.or_none]

/-- A stage that makes a row-time attribute of the first part of a pair, and a stage that is refused
behind it. -/
def Stage.reorderPair : List Stage :=
  [{ expressions := [.reference "f1", .rowtime (.reference "f0")] },
    { expressions := [.reference "f2"] }]

/-- The refused stage leaves the columns of the first one. -/
theorem Settings.carries_of_chain_pair :
    ∃ outcome schema fault,
      (chain {} .pair Stage.reorderPair)[1]? = some outcome ∧
        lastSchema? ((chain {} .pair Stage.reorderPair).take 2) = some schema ∧
        outcome.1 = .error fault ∧ schema.names = ["f1", "f0"] ∧
        outcome.2.Carries {} schema := by
  obtain ⟨outcome, reached⟩ : ∃ outcome,
      (chain {} .pair Stage.reorderPair)[1]? = some outcome := ⟨_, rfl⟩
  obtain ⟨schema, last, names_eq⟩ : ∃ schema,
      lastSchema? ((chain {} .pair Stage.reorderPair).take 2) = some schema ∧
        schema.names = ["f1", "f0"] := ⟨_, rfl, rfl⟩
  obtain ⟨fault, refused⟩ : ∃ fault, outcome.1 = .error fault := by
    cases reached
    exact ⟨_, rfl⟩
  exact ⟨outcome, schema, fault, reached, last, refused, names_eq, carries_of_chain reached last⟩

end Tabulate
