import Tabulate.Proofs.Assembly
import Tabulate.Proofs.Refusal
import Tabulate.Proofs.Repetition
import Tabulate.Proofs.TimeTags

/-!
# Obstacles of shapes

Four obstacles can keep a shape from being taken as it is: the settings, its declaration, a part
that is named by the star, and parts that share a name.  Of several obstacles the first one in this
order is the fault.  A shape without them has a schema, and its fields are the parts at their own
places, or the lone value under the base name.  None of them is a time attribute, whatever their
types are.
-/

namespace Tabulate

namespace Shape

/-- What comes of taking a shape as it is. -/
structure TakenAsIs (settings : Settings) (shape : Shape) (outcome : Except Fault Schema) :
    Prop where
  /-- Refused settings are the first obstacle. -/
  invalid : ∀ fault, settings.validate = .error fault →
    outcome = .error fault ∧ fault.category = .configuration
  /-- A hidden declaration is the second. -/
  hidden : settings.validate = .ok () → shape.declaration.Hidden →
    outcome = .error (.inaccessible shape) ∧ (Fault.inaccessible shape).category = .structural
  /-- A part that is named by the star is the third. -/
  starred : settings.validate = .ok () → ¬shape.declaration.Hidden → "*" ∈ shape.partNames →
    outcome = .error .starPart ∧ Fault.starPart.category = .structural ∧
      Fault.starPart.message = "Field name can not be '*'."
  /-- Parts that share a name are the last. -/
  repeated : settings.validate = .ok () → ¬shape.declaration.Hidden → "*" ∉ shape.partNames →
    ¬shape.partNames.Nodup →
      ∃ fault, outcome = .error fault ∧ fault.ReportsRepetition shape.partNames
  /-- Without an obstacle, every part is a field from its own place. -/
  composite : settings.validate = .ok () → ¬shape.declaration.Hidden → "*" ∉ shape.partNames →
    shape.partNames.Nodup → shape.isComposite = true →
      ∃ schema : Schema, outcome = .ok schema ∧ schema.hasRowtime = false ∧
        schema.size = shape.arity ∧
        ∀ (place : Nat) (part : Column), shape.parts[place]? = some part →
          schema.fields[place]? =
            some { name := part.name, origin := .physical place, type := part.type }
  /-- Without an obstacle, a lone value is the one field, under the base name. -/
  atomic : settings.validate = .ok () → ¬shape.declaration.Hidden →
    ∀ type, shape.layout = .atomic type →
      ∃ schema : Schema, outcome = .ok schema ∧ schema.hasRowtime = false ∧
        schema.fields = [{ name := settings.baseName, origin := .physical 0, type }]

/-- The names, types and places that a shape offers on its own belong together. -/
structure ViewsMatch (shape : Shape) (names : List String) (places : Except Fault (List Nat)) :
    Prop where
  /-- There are as many types as names. -/
  types : ∃ types, shape.fieldTypes = .ok types ∧ types.length = names.length
  /-- The places count the names. -/
  places_eq : places = .ok (List.range names.length)

theorem checkAccessible_of_not_hidden {shape : Shape} (visible : ¬shape.declaration.Hidden) :
    shape.checkAccessible = .ok () := by
  rw [← Declaration.isAccessible_eq_false_iff, Bool.not_eq_false] at visible
  exact checkAccessible_eq_ok_iff.mpr visible

/-- Only composite shapes have parts. -/
theorem isComposite_of_partNames_ne_nil {shape : Shape} (named : shape.partNames ≠ []) :
    shape.isComposite = true := by
  obtain ⟨declaration, layout⟩ := shape
  cases layout with
  | composite parts positional => rfl
  | atomic type => exact absurd rfl named
  | generic => exact absurd rfl named

theorem getElem?_partFields {shape : Shape} {place : Nat} {part : Column}
    (found : shape.parts[place]? = some part) :
    shape.partFields[place]? =
      some { name := part.name, origin := .physical place, type := part.type } := by
  simp [partFields, found]

/-! ## Views -/

section Views

variable {shape : Shape} {base : String} {taken names : List String}

/-- A shape that has names has as many types. -/
theorem exists_fieldTypes_of_fieldNames (named : shape.fieldNames base taken = .ok names) :
    ∃ types, shape.fieldTypes = .ok types ∧ types.length = names.length := by
  obtain ⟨access, chosen⟩ := Outcome.then_eq_ok_iff.mp named
  obtain ⟨-, chosen⟩ := Outcome.refuse_eq_ok_iff.mp chosen
  obtain rfl := Except.ok.inj chosen
  rw [fieldTypes, access]
  refine ⟨_, rfl, ?_⟩
  obtain ⟨declaration, layout⟩ := shape
  cases layout with
  | atomic type => rfl
  | composite parts positional => simp
  | generic => rfl

/-- The names that are taken do not decide how many names a shape has. -/
theorem exists_fieldNames_nil (named : shape.fieldNames base taken = .ok names)
    (starless : base ≠ "*") :
    ∃ own, shape.fieldNames base [] = .ok own ∧ own.length = names.length := by
  obtain ⟨access, -⟩ := Outcome.then_eq_ok_iff.mp named
  -- Parts have their names whatever is taken, and a lone value has one name in any case.
  cases composite : shape.isComposite with
  | true =>
      obtain ⟨parts, positional, layout_eq⟩ := isComposite_eq_true_iff.mp composite
      rw [fieldNames, layout_eq] at named ⊢
      exact ⟨names, named, rfl⟩
  | false =>
      rw [fieldNames_of_lone access composite starless] at named ⊢
      obtain rfl := Except.ok.inj named
      exact ⟨_, rfl, rfl⟩

theorem viewsMatch_of_fieldNames (named : shape.fieldNames base [] = .ok names) :
    shape.ViewsMatch names (shape.fieldPlaces base) where
  types := exists_fieldTypes_of_fieldNames named
  places_eq := by
    rw [fieldPlaces, named]
    rfl

end Views

end Shape

namespace Settings

variable {settings : Settings} {shape : Shape}

/-- Under settings, the names that are taken make no difference to the types and places. -/
theorem viewsMatch_of_fieldNames {taken names : List String}
    (named : settings.fieldNames shape taken = .ok names) :
    shape.ViewsMatch names (settings.fieldPlaces shape) := by
  obtain ⟨valid, shapeNamed⟩ := Outcome.then_eq_ok_iff.mp named
  obtain ⟨-, starless, -⟩ := validate_eq_ok_iff.mp valid
  obtain ⟨own, ownNamed, length_eq⟩ := Shape.exists_fieldNames_nil shapeNamed starless
  obtain ⟨types, places_eq⟩ := Shape.viewsMatch_of_fieldNames ownNamed
  rw [length_eq] at types places_eq
  refine ⟨types, ?_⟩
  rw [fieldPlaces, valid, Outcome.ok_bind, places_eq]

/-! ## Obstacles -/

/-- Refused settings are the first obstacle. -/
theorem schemaOf_of_invalid {fault : Fault} (known : shape.isGeneric = false)
    (refused : settings.validate = .error fault) : settings.schemaOf shape = .error fault := by
  rw [schemaOf_eq known, refused, Outcome.error_bind]

section Visible

variable (valid : settings.validate = .ok ()) (access : shape.checkAccessible = .ok ())
include valid access

/-- A part that is named by the star is the third obstacle. -/
theorem schemaOf_of_star (star : "*" ∈ shape.partNames) :
    settings.schemaOf shape = .error .starPart := by
  have composite := Shape.isComposite_of_partNames_ne_nil (List.ne_nil_of_mem star)
  rw [schemaOf_of_composite composite, valid, Outcome.ok_bind, access, Outcome.ok_bind,
    if_pos star, Outcome.throw_eq_error]

/-- Parts that share a name are the last obstacle. -/
theorem schemaOf_of_repetition (known : shape.isGeneric = false)
    (starless : "*" ∉ shape.partNames) (repetition : ¬shape.partNames.Nodup) :
    settings.schemaOf shape = .error (.repeatedNames shape.partNames) := by
  rw [schemaOf_of_starless valid known access starless,
    Names.checkDistinct_of_not_nodup repetition, Outcome.error_bind]

/-- A lone value has no parts that could be obstacles. -/
theorem schemaOf_of_atomic {type : ColumnType} (lone : shape.layout = .atomic type) :
    settings.schemaOf shape =
      .ok
        { fields := [{ name := settings.baseName, origin := .physical 0, type }]
          hasRowtime := false } := by
  obtain ⟨declaration, layout⟩ := shape
  cases lone
  exact schemaOf_of_starless valid rfl access List.not_mem_nil

end Visible

/-- The first obstacle is the fault, and without one there is a schema. -/
theorem takenAsIs_schemaOf (known : shape.isGeneric = false) :
    shape.TakenAsIs settings (settings.schemaOf shape) where
  invalid := by
    intro fault refused
    exact ⟨schemaOf_of_invalid known refused, settings.failsOnly_validate fault refused⟩
  hidden := by
    intro valid hidden
    exact ⟨schemaOf_of_hidden known valid hidden, rfl⟩
  starred := by
    intro valid visible star
    have access := Shape.checkAccessible_of_not_hidden visible
    exact ⟨schemaOf_of_star valid access star, rfl, rfl⟩
  repeated := by
    intro valid visible starless repetition
    have access := Shape.checkAccessible_of_not_hidden visible
    exact ⟨_, schemaOf_of_repetition valid access known starless repetition,
      Fault.reportsRepetition _⟩
  composite := by
    intro valid visible starless distinct composite
    have access := Shape.checkAccessible_of_not_hidden visible
    exact ⟨_, schemaOf_of_distinct valid composite access starless distinct, rfl,
      Shape.length_partFields shape, fun place part => Shape.getElem?_partFields⟩
  atomic := by
    intro valid visible type lone
    have access := Shape.checkAccessible_of_not_hidden visible
    exact ⟨_, schemaOf_of_atomic valid access lone, rfl, rfl⟩

/-! ## Shapes as they are -/

/-- The first obstacle decides what comes of taking a shape as it is, and names that are found have
their types and places. -/
theorem takenAsIs_of_known (settings : Settings) (shape : Shape) :
    (shape.isGeneric = false → shape.TakenAsIs settings (settings.schemaOf shape)) ∧
      (∀ taken names, settings.fieldNames shape taken = .ok names →
        shape.ViewsMatch names (settings.fieldPlaces shape)) ∧
      ∀ base names, shape.fieldNames base [] = .ok names →
        shape.ViewsMatch names (shape.fieldPlaces base) :=
  ⟨takenAsIs_schemaOf, fun _ _ => viewsMatch_of_fieldNames,
    fun _ _ => Shape.viewsMatch_of_fieldNames⟩

/-- Parts with the types of time attributes, and a lone value whose base name is taken. -/
theorem takenAsIs_of_known_replayed :
    Shape.replayed.isGeneric = false ∧
      Shape.replayed.TakenAsIs {} (schemaOf {} .replayed) ∧
      fieldNames {} .amount ["f0"] = .ok ["f0_0"] ∧
      Shape.amount.ViewsMatch ["f0_0"] (fieldPlaces {} .amount) ∧
      Shape.openRecord.fieldNames "row" [] = .ok ["row"] ∧
      Shape.openRecord.ViewsMatch ["row"] (Shape.openRecord.fieldPlaces "row") := by
  have known : Shape.replayed.isGeneric = false := rfl
  have named : fieldNames {} .amount ["f0"] = .ok ["f0_0"] := rfl
  have recordNamed : Shape.openRecord.fieldNames "row" [] = .ok ["row"] := rfl
  exact ⟨known, (takenAsIs_of_known {} .replayed).1 known, named,
    (takenAsIs_of_known {} .amount).2.1 _ _ named, recordNamed,
    (takenAsIs_of_known {} .openRecord).2.2 _ _ recordNamed⟩

end Settings
end Tabulate
