import Tabulate.Proofs.Overrides
import Tabulate.Proofs.Refusal
import Tabulate.Settings.Load

/-!
# Layers of settings

The environment goes before the document, and the document before the defaults.  Whether the result
is valid is asked once, of the uppermost layer, so a value that would be refused does no harm where
another one covers it.  A document that writes no settings is refused before the environment is
looked at.
-/

namespace Tabulate
namespace Settings

/-- The settings that a document writes, each of them if its key is there. -/
structure Written where
  baseName : Option String
  precision : Option UInt8

/-- The text is a document whose keys for the settings hold what is written and nothing else. -/
def Written.IsIn (written : Written) (text : String) : Prop :=
  ∃ entries, Toml.Entries.ofText? text = some entries ∧
    entries.find? "atomic_field_name" = written.baseName.map .text ∧
    entries.find? "time_indicator_precision" =
      written.precision.map fun precision => .integer precision.toNat

/-- The written settings over the defaults. -/
def Written.settings (written : Written) : Settings where
  baseName := written.baseName.getD "f0"
  precision := written.precision.getD 3

/-! ## Reading documents -/

section Documents

variable {item : Toml.Item} {entries : Toml.Entries} {text : String} {settings : Settings}

theorem baseNameOf?_eq_some_iff {name : String} :
    baseNameOf? item = some name ↔ item = .text name := by
  cases item <;> simp [baseNameOf?]

theorem precisionOf?_eq_some_iff {precision : UInt8} :
    precisionOf? item = some precision ↔ item = .integer precision.toNat := by
  cases item with
  | integer value =>
      simp only [precisionOf?, Option.ite_none_right_eq_some, Option.some.injEq,
        Toml.Item.integer.injEq]
      constructor
      · rintro ⟨⟨nonneg, below⟩, rfl⟩
        have small : value.toNat < UInt8.size := by
          show value.toNat < 256
          omega
        rw [UInt8.toNat_ofNat_of_lt' small]
        omega
      · rintro rfl
        have small : precision.toNat < 256 := precision.toNat_lt
        exact ⟨⟨by omega, by omega⟩, by simp⟩
  | _ => simp [precisionOf?]

/-- Under a key, either a value is written, or the default holds. -/
theorem entryOr_eq_some_iff {α : Type} {default value : α} {read? : Toml.Item → Option α}
    {write : α → Toml.Item} {key : String}
    (read_iff : ∀ item value, read? item = some value ↔ item = write value) :
    entryOr default read? entries key = some value ↔
      ∃ found : Option α, entries.find? key = found.map write ∧ value = found.getD default := by
  rw [entryOr]
  split
  next missing =>
    rw [missing, Option.some.injEq]
    constructor
    · rintro rfl
      exact ⟨none, rfl, rfl⟩
    · rintro ⟨_ | found, found_eq, rfl⟩
      · rfl
      · cases found_eq
  next item present =>
    rw [present, read_iff]
    constructor
    · rintro rfl
      exact ⟨some value, rfl, rfl⟩
    · rintro ⟨_ | found, found_eq, rfl⟩
      · cases found_eq
      · exact Option.some.inj found_eq

theorem ofEntries?_eq_some_iff :
    ofEntries? entries = some settings ↔
      ∃ written : Written,
        (entries.find? "atomic_field_name" = written.baseName.map .text ∧
          entries.find? "time_indicator_precision" =
            written.precision.map fun precision => .integer precision.toNat) ∧
        written.settings = settings := by
  simp only [ofEntries?, Option.bind_eq_bind, Option.bind_eq_some_iff, Option.some.injEq,
    entryOr_eq_some_iff fun _ _ => baseNameOf?_eq_some_iff,
    entryOr_eq_some_iff fun _ _ => precisionOf?_eq_some_iff]
  constructor
  · rintro ⟨_, ⟨baseName, named, rfl⟩, _, ⟨precision, measured, rfl⟩, rfl⟩
    exact ⟨⟨baseName, precision⟩, ⟨named, measured⟩, rfl⟩
  · rintro ⟨⟨baseName, precision⟩, ⟨named, measured⟩, rfl⟩
    exact ⟨_, ⟨baseName, named, rfl⟩, _, ⟨precision, measured, rfl⟩, rfl⟩

/-- Exactly the settings that are written in a text are read from it. -/
theorem exists_isIn_iff :
    (Toml.Entries.ofText? text).bind ofEntries? = some settings ↔
      ∃ written : Written, written.IsIn text ∧ written.settings = settings := by
  simp only [Option.bind_eq_some_iff, ofEntries?_eq_some_iff, Written.IsIn]
  constructor
  · rintro ⟨entries, found, written, holds, rfl⟩
    exact ⟨written, ⟨entries, found, holds⟩, rfl⟩
  · rintro ⟨written, ⟨entries, found, holds⟩, rfl⟩
    exact ⟨entries, found, written, holds, rfl⟩

variable {overrides : Overrides}

/-- What a text writes is overridden. -/
theorem ofText_of_isIn {written : Written} (inside : written.IsIn text) :
    ofText overrides text = (written.settings.overridden overrides).mapError .refused := by
  rw [ofText, exists_isIn_iff.mpr ⟨written, inside, rfl⟩]

/-- A text that writes no settings is malformed, whatever would override them. -/
theorem ofText_of_not_isIn (absent : ∀ written : Written, ¬written.IsIn text) :
    ofText overrides text = .error .malformed := by
  have missing : (Toml.Entries.ofText? text).bind ofEntries? = none := by
    rw [Option.eq_none_iff_forall_ne_some]
    intro settings read
    obtain ⟨written, inside, -⟩ := exists_isIn_iff.mp read
    exact absent written inside
  rw [ofText, missing]

end Documents

/-! ## Faults of overrides -/

section Faults

variable {settings : Settings} {overrides : Overrides}

theorem failsOnly_override :
    Outcome.FailsOnly (fun fault => fault.category = .configuration)
      (settings.override overrides).2 := by
  rw [override]
  split
  · exact Outcome.failsOnly_ok ()
  · split
    · exact Outcome.failsOnly_ok ()
    · exact Outcome.failsOnly_error.mpr rfl

/-- Overriding is refused only for the sake of the settings. -/
theorem failsOnly_overridden :
    Outcome.FailsOnly (fun fault => fault.category = .configuration)
      (settings.overridden overrides) := by
  refine failsOnly_override.bind fun _ => ?_
  exact (failsOnly_validate _).bind fun _ => Outcome.failsOnly_ok _

end Faults

/-- A text that writes no settings is malformed in every environment.  Any other text is loaded
exactly with the settings that put the environment over the text and the text over the defaults, if
the precision in the environment can be read and these settings are valid.  Otherwise the settings
are refused. -/
theorem layered_of_ofText (lookup : String → Option String) (text : String) :
    ((∀ written : Written, ¬written.IsIn text) →
        ofText (.ofEnvironment lookup) text = .error .malformed) ∧
      ∀ written : Written, written.IsIn text →
        (∀ settings, ofText (.ofEnvironment lookup) text = .ok settings ↔
          (Overrides.ofEnvironment lookup).Applied written.settings settings ∧
            settings.baseName ≠ "" ∧ settings.baseName ≠ "*" ∧ settings.precision ≤ 9) ∧
        ((∃ settings, ofText (.ofEnvironment lookup) text = .ok settings ∧
            settings.validate = .ok ()) ∨
          ∃ fault, ofText (.ofEnvironment lookup) text = .error (.refused fault) ∧
            fault.category = .configuration) := by
  refine ⟨ofText_of_not_isIn, fun written inside => ⟨fun settings => ?_, ?_⟩⟩
  · rw [ofText_of_isIn inside, Outcome.mapError_eq_ok_iff, overridden_eq_ok_iff,
      validate_eq_ok_iff]
    rfl
  · rw [ofText_of_isIn inside]
    cases outcome : written.settings.overridden (.ofEnvironment lookup) with
    | ok settings => exact .inl ⟨settings, rfl, (overridden_eq_ok_iff.mp outcome).2⟩
    | error fault => exact .inr ⟨fault, rfl, failsOnly_overridden fault outcome⟩

/-- Neither of two written values is valid, and the environment covers both.  It does not help where
a bracket is left open. -/
theorem layered_of_ofText_covered :
    let lookup := fun key =>
      List.lookup key [(baseNameVariable, "value"), (precisionVariable, " +006\t")]
    let text := "atomic_field_name = \"*\"\ntime_indicator_precision = 12\n"
    let written : Written := { baseName := some "*", precision := some 12 }
    let broken := "atomic_field_name = [\n"
    written.IsIn text ∧ written.settings.validate = .error .starBaseName ∧
      ofText (.ofEnvironment lookup) text = .ok { baseName := "value", precision := 6 } ∧
      (∀ written : Written, ¬written.IsIn broken) ∧
      ofText (.ofEnvironment lookup) broken = .error .malformed := by
  have read : Toml.Entries.ofText? "atomic_field_name = \"*\"\ntime_indicator_precision = 12\n" =
      some [("atomic_field_name", .text "*"), ("time_indicator_precision", .integer 12)] := by rfl
  have unread : Toml.Entries.ofText? "atomic_field_name = [\n" = none := by rfl
  intro lookup text written broken
  have inside : written.IsIn text := ⟨_, read, rfl, rfl⟩
  have applied : (Overrides.ofEnvironment lookup).Applied written.settings
      { baseName := "value", precision := 6 } := by
    refine ⟨rfl, ?_, nofun⟩
    rintro raw ⟨⟩
    exact readPrecision?_eq_some_iff.mp rfl
  have absent : ∀ written : Written, ¬written.IsIn broken := by
    rintro written ⟨entries, found, -⟩
    cases unread.symm.trans found
  obtain ⟨-, loaded⟩ := layered_of_ofText lookup text
  obtain ⟨malformed, -⟩ := layered_of_ofText lookup broken
  refine ⟨inside, rfl, ?_, absent, malformed absent⟩
  exact ((loaded written inside).1 _).mpr ⟨applied, by decide, by decide, by decide⟩

end Settings
end Tabulate
