import Tabulate.Proofs.Soundness

/-!
# Repeated names of fields

A derivation that grants every expression a field looks at the names of these fields before it
counts their time attributes.  If some names are repeated, the one fault that is met lists them
completely: each of them once, in the order of their second occurrences, and behind them the names
of all fields.
-/

namespace Tabulate

/-- A fault that reports all repetitions among some names. -/
structure Fault.ReportsRepetition (names : List String) (fault : Fault) : Prop where
  /-- The names are the cause, and not the time attributes behind them. -/
  cause : fault = .repeatedNames names
  /-- The author of the expressions is to mend it. -/
  category_eq : fault.category = .validation
  /-- The wording lists the repeated names, and then all names. -/
  message_eq : ∃ listed, Names.ListsRepeated names listed ∧
    fault.message =
      "Field names must be unique.\nList of duplicate fields: [" ++ ", ".intercalate listed ++
        "].\nList of all fields: [" ++ ", ".intercalate names ++ "]."

theorem Fault.reportsRepetition (names : List String) :
    (Fault.repeatedNames names).ReportsRepetition names where
  cause := rfl
  category_eq := rfl
  message_eq := ⟨Names.repeated names, Names.listsRepeated_repeated names, rfl⟩

/-- Behind the search for a star, repeated names are refused before anything is counted. -/
theorem Field.checkAll_of_repetition {fields : List Field}
    (starless : "*" ∉ fields.map Field.name) (repetition : ¬(fields.map Field.name).Nodup) :
    checkAll fields = .error (.repeatedNames (fields.map Field.name)) := by
  simp only [checkAll, starless, if_false, Names.checkDistinct_of_not_nodup repetition,
    Outcome.error_bind]

/-- Expressions that are granted fields with repeated names are some expressions. -/
theorem Shape.ne_nil_of_repetition {precision : UInt8} {shape : Shape}
    {expressions : List Expression} {fields : List Field}
    (resolved : shape.resolve precision expressions = .ok fields)
    (repetition : ¬(fields.map Field.name).Nodup) : expressions ≠ [] := by
  rintro rfl
  have none : fields = [] := List.length_eq_zero_iff.mp (sourced_of_resolve resolved).1
  subst none
  exact repetition List.nodup_nil

namespace Settings

/-- Repeated names are listed completely, each once and in the order of their second occurrences,
and exactly the lists without them are distinct.  A derivation whose fields share a name, none of
them the star, is refused with this list, whatever time attributes there are. -/
theorem repetition_reported :
    (∀ names listed, listed = Names.repeated names ↔ Names.ListsRepeated names listed) ∧
      (∀ names, Names.checkDistinct names = .ok () ↔ names.Nodup) ∧
      ∀ (settings : Settings) (shape : Shape) (expressions : List Expression)
        (fields : List Field),
        settings.validate = .ok () → shape.checkAccessible = .ok () →
        shape.resolve settings.precision expressions = .ok fields →
        "*" ∉ fields.map Field.name → ¬(fields.map Field.name).Nodup →
          ∃ fault, settings.derive shape expressions = .error fault ∧
            fault.ReportsRepetition (fields.map Field.name) := by
  refine ⟨fun names listed => Names.listsRepeated_iff.symm,
    fun names => Names.checkDistinct_eq_ok_iff, ?_⟩
  intro settings shape expressions fields valid access resolved starless repetition
  refine ⟨_, ?_, Fault.reportsRepetition _⟩
  rw [derive_of_ne_nil (Shape.ne_nil_of_repetition resolved repetition), valid, Outcome.ok_bind,
    access, Outcome.ok_bind, resolved, Outcome.ok_bind,
    Field.checkAll_of_repetition starless repetition, Outcome.error_bind]

/-- Three references to one part between two row-time attributes of one name. -/
theorem repetition_reported_alternating :
    ∃ fields fault,
      validate {} = .ok () ∧ Shape.namedPair.checkAccessible = .ok () ∧
        Shape.namedPair.resolve 3
          [.reference "f1", .rowtime (.reference "f0"), .reference "f1",
            .rowtime (.reference "f0"), .reference "f1"] = .ok fields ∧
        "*" ∉ fields.map Field.name ∧ ¬(fields.map Field.name).Nodup ∧
        1 < fields.countP Field.isRowtime ∧
        derive {} .namedPair
          [.reference "f1", .rowtime (.reference "f0"), .reference "f1",
            .rowtime (.reference "f0"), .reference "f1"] = .error fault ∧
        fault.ReportsRepetition (fields.map Field.name) ∧
        Names.ListsRepeated (fields.map Field.name) ["f1", "f0"] := by
  obtain ⟨fields, resolved, starless, repetition, several, listed_eq⟩ : ∃ fields,
      Shape.namedPair.resolve 3
          [.reference "f1", .rowtime (.reference "f0"), .reference "f1",
            .rowtime (.reference "f0"), .reference "f1"] = .ok fields ∧
        "*" ∉ fields.map Field.name ∧ ¬(fields.map Field.name).Nodup ∧
        1 < fields.countP Field.isRowtime ∧
        ["f1", "f0"] = Names.repeated (fields.map Field.name) :=
    ⟨_, rfl, by decide, by decide, by decide, by decide⟩
  have valid : validate {} = .ok () := rfl
  have access : Shape.namedPair.checkAccessible = .ok () := rfl
  obtain ⟨lists_iff, -, refused⟩ := repetition_reported
  obtain ⟨fault, derived, reports⟩ :=
    refused {} .namedPair _ fields valid access resolved starless repetition
  exact ⟨fields, fault, valid, access, resolved, starless, repetition, several, derived, reports,
    (lists_iff _ _).mp listed_eq⟩

end Settings
end Tabulate
