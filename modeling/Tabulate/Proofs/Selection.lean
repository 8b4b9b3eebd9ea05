import Mathlib.Data.List.Perm.Subperm
import Tabulate.Proofs.Derive

/-!
# Selections of fields

By name, every expression is granted its field regardless of the others and of its place.  The
checks across fields accept every part of a list that they accept.  So when some expressions are
selected from a list that has a schema, and put in any order, their schema has the selected fields
in that order.  A positional shape needs all expressions to be kept, for the choice of the reading
depends on them.
-/

namespace Tabulate

variable {α β : Type}

/-- The chosen elements stand at the given places of a list, in the order of these places. -/
def Selects (places : List Nat) (all chosen : List α) : Prop :=
  List.Forall₂ (fun place element => all[place]? = some element) places chosen

/-- A schema with the fields at the given places of another one, which states truly whether the
row-time attribute is among them. -/
structure Schema.IsSelection (places : List Nat) (schema result : Schema) : Prop where
  selects : Selects places schema.fields result.fields
  hasRowtime_iff : result.hasRowtime = true ↔
    ∃ place ∈ places, ∃ field, schema.fields[place]? = some field ∧ field.isRowtime = true

namespace Selects

variable {places : List Nat} {all chosen : List α}

theorem filterMap_eq (selects : Selects places all chosen) :
    places.filterMap (all[·]?) = chosen := by
  induction selects with
  | nil => rfl
  | cons found _ ih => rw [List.filterMap_cons, found, ih]

/-- A list is a selection of all its places. -/
theorem range_length (all : List α) : Selects (List.range all.length) all all := by
  apply List.forall₂_iff_get.mpr
  refine ⟨List.length_range, ?_⟩
  intro place inside _
  simp

theorem subset_range (selects : Selects places all chosen) :
    places ⊆ List.range all.length := by
  intro place member
  have related := Outcome.forall_mem_of_forall₂ selects.flip fun element place found =>
    (List.getElem?_eq_some_iff.mp found).1
  exact List.mem_range.mpr (related place member)

/-- Distinct places select every element of a list once at most. -/
theorem subperm (selects : Selects places all chosen) (distinct : places.Nodup) :
    chosen.Subperm all := by
  obtain ⟨middle, reordered, kept⟩ := distinct.subperm selects.subset_range
  refine ⟨middle.filterMap (all[·]?), ?_, ?_⟩
  · rw [← selects.filterMap_eq]
    exact reordered.filterMap _
  · have sublist := kept.filterMap (all[·]?)
    rwa [(range_length all).filterMap_eq] at sublist

/-- Reordered places select the whole list. -/
theorem perm (selects : Selects places all chosen)
    (reordered : places.Perm (List.range all.length)) : chosen.Perm all := by
  have chosen_perm := reordered.filterMap (all[·]?)
  rwa [selects.filterMap_eq, (range_length all).filterMap_eq] at chosen_perm

theorem mem_iff (selects : Selects places all chosen) {element : α} :
    element ∈ chosen ↔ ∃ place ∈ places, all[place]? = some element := by
  rw [← selects.filterMap_eq, List.mem_filterMap]

/-- What is related to a list position by position has the same selection. -/
theorem exists_forall₂ {relation : α → β → Prop} {outputs : List β}
    (selects : Selects places all chosen) (related : List.Forall₂ relation all outputs) :
    ∃ chosenOutputs, Selects places outputs chosenOutputs ∧
      List.Forall₂ relation chosen chosenOutputs := by
  induction selects with
  | nil => exact ⟨[], .nil, .nil⟩
  | cons found _ ih =>
      obtain ⟨output, outputFound, outputRelated⟩ :=
        Outcome.exists_getElem?_of_forall₂ related found
      obtain ⟨rest, restSelects, restRelated⟩ := ih
      exact ⟨output :: rest, .cons outputFound restSelects, .cons outputRelated restRelated⟩

end Selects

namespace Field

variable {all chosen : List Field}

theorem Compatible.of_subperm (compatible : Compatible all) (subperm : chosen.Subperm all) :
    Compatible chosen where
  names_nodup := by
    obtain ⟨middle, reordered, kept⟩ := subperm
    have middle_nodup := (kept.map Field.name).nodup compatible.names_nodup
    exact (reordered.map Field.name).nodup_iff.mp middle_nodup
  rowtimes_le_one := Nat.le_trans (subperm.countP_le _) compatible.rowtimes_le_one
  proctimes_le_one := Nat.le_trans (subperm.countP_le _) compatible.proctimes_le_one

/-- The checks across fields accept a part of what they accept. -/
theorem exists_checkAll_of_subperm {hasRowtime : Bool} (checked : checkAll all = .ok hasRowtime)
    (subperm : chosen.Subperm all) : ∃ found, checkAll chosen = .ok found := by
  obtain ⟨starless, compatible, -⟩ := checkAll_eq_ok_iff.mp checked
  have chosenStarless : "*" ∉ chosen.map Field.name := by
    intro star
    exact starless (List.map_subset Field.name subperm.subset star)
  exact ⟨_, checkAll_eq_ok_iff.mpr ⟨chosenStarless, compatible.of_subperm subperm, rfl⟩⟩

end Field

/-- Expressions that include others keep them from being read by place. -/
theorem Shape.readsByPlace_of_subset {shape : Shape} {expressions more : List Expression}
    (byName : shape.readsByPlace expressions = false) (subset : expressions ⊆ more) :
    shape.readsByPlace more = false := by
  rw [← Bool.not_eq_true, readsByPlace_eq_true_iff] at byName ⊢
  rintro ⟨positional, absent⟩
  exact byName ⟨positional, fun name member => absent name (subset member)⟩

namespace Settings

variable {settings : Settings} {shape : Shape} {expressions chosen : List Expression}
  {schema : Schema} {places : List Nat}

/-- If a list and a selection of it are both read by name, the selection is granted the selected
fields. -/
theorem exists_derive_of_byName (composite : shape.isComposite = true)
    (derived : settings.derive shape expressions = .ok schema)
    (selects : Selects places expressions chosen) (asked : chosen ≠ []) (distinct : places.Nodup)
    (byName : shape.readsByPlace expressions = false)
    (chosenByName : shape.readsByPlace chosen = false) :
    ∃ result, settings.derive shape chosen = .ok result ∧ schema.IsSelection places result := by
  have allAsked : expressions ≠ [] := by
    rintro rfl
    exact asked (List.subperm_nil.mp (selects.subperm distinct))
  obtain ⟨valid, accessible, resolved, checked⟩ := (derive_eq_ok_iff allAsked).mp derived
  rw [Shape.resolve_byName composite byName] at resolved
  obtain ⟨fields, fieldsSelect, granted⟩ :=
    selects.exists_forall₂ (Shape.fieldsByName_eq_ok_iff.mp resolved)
  have chosenResolved : shape.resolve settings.precision chosen = .ok fields := by
    rw [Shape.resolve_byName composite chosenByName]
    exact Shape.fieldsByName_eq_ok_iff.mpr granted
  obtain ⟨hasRowtime, chosenChecked⟩ :=
    Field.exists_checkAll_of_subperm checked (fieldsSelect.subperm distinct)
  refine ⟨{ fields, hasRowtime },
    (derive_eq_ok_iff asked).mpr ⟨valid, accessible, chosenResolved, chosenChecked⟩,
    fieldsSelect, ?_⟩
  simp only [Field.hasRowtime_iff_of_checkAll chosenChecked, fieldsSelect.mem_iff]
  constructor
  · rintro ⟨field, ⟨place, member, found⟩, rowtime⟩
    exact ⟨place, member, field, found, rowtime⟩
  · rintro ⟨place, member, field, found, rowtime⟩
    exact ⟨field, ⟨place, member, found⟩, rowtime⟩

/-- Any selection of expressions has the selected fields if the parts of the shape are addressed by
name only.  Otherwise any reordering has the reordered fields, if the expressions are read by name
all the same. -/
theorem isSelection_of_derive (composite : shape.isComposite = true)
    (derived : settings.derive shape expressions = .ok schema)
    (selects : Selects places expressions chosen) (asked : chosen ≠ [])
    (kept : (shape.isPositional = false ∧ places.Nodup) ∨
      (shape.readsByPlace expressions = false ∧ places.Perm (List.range expressions.length))) :
    ∃ result, settings.derive shape chosen = .ok result ∧ schema.IsSelection places result := by
  obtain ⟨named, distinct⟩ | ⟨byName, reordered⟩ := kept
  · exact exists_derive_of_byName composite derived selects asked distinct
      (Shape.readsByPlace_of_not_isPositional named) (Shape.readsByPlace_of_not_isPositional named)
  · have distinct : places.Nodup := reordered.nodup_iff.mpr List.nodup_range
    have subset : expressions ⊆ chosen := (selects.perm reordered).symm.subset
    exact exists_derive_of_byName composite derived selects asked distinct byName
      (Shape.readsByPlace_of_subset byName subset)

/-- Two of three expressions are swapped over a record, and two over a pair. -/
theorem isSelection_of_derive_pair :
    (∃ schema result,
        derive {} .namedPair
            [.reference "f1", .proctime (.reference "seen"), .rowtime (.reference "f0")] =
          .ok schema ∧
        derive {} .namedPair [.rowtime (.reference "f0"), .reference "f1"] = .ok result ∧
        schema.IsSelection [2, 0] result) ∧
      ∃ schema result,
        derive {} .pair [.reference "f1", .rowtime (.reference "f0")] = .ok schema ∧
          derive {} .pair [.rowtime (.reference "f0"), .reference "f1"] = .ok result ∧
          schema.IsSelection [1, 0] result := by
  constructor
  · obtain ⟨schema, derived⟩ : ∃ schema,
        derive {} .namedPair
            [.reference "f1", .proctime (.reference "seen"), .rowtime (.reference "f0")] =
          .ok schema := ⟨_, rfl⟩
    have selects : @Selects Expression [2, 0]
        [.reference "f1", .proctime (.reference "seen"), .rowtime (.reference "f0")]
        [.rowtime (.reference "f0"), .reference "f1"] := .cons rfl (.cons rfl .nil)
    obtain ⟨result, chosenDerived, selection⟩ :=
      isSelection_of_derive rfl derived selects (List.cons_ne_nil _ _) (.inl ⟨rfl, by decide⟩)
    exact ⟨schema, result, derived, chosenDerived, selection⟩
  · obtain ⟨schema, derived⟩ : ∃ schema,
        derive {} .pair [.reference "f1", .rowtime (.reference "f0")] = .ok schema := ⟨_, rfl⟩
    have selects : @Selects Expression [1, 0] [.reference "f1", .rowtime (.reference "f0")]
        [.rowtime (.reference "f0"), .reference "f1"] := .cons rfl (.cons rfl .nil)
    obtain ⟨result, chosenDerived, selection⟩ :=
      isSelection_of_derive rfl derived selects (List.cons_ne_nil _ _)
        (.inr ⟨by decide, by decide⟩)
    exact ⟨schema, result, derived, chosenDerived, selection⟩

end Settings
end Tabulate
