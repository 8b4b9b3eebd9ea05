import Tabulate.Settings
import Tabulate.Toml.Assembly

/-!
# Loading settings

Settings are written as a TOML document.  Keys that are not settings are ignored, and settings that
are missing are the defaults.  What the document says is overridden by the environment, and the
outcome is validated.
-/

namespace Tabulate

/-- Why settings could not be loaded. -/
inductive LoadFault where
  /-- There is no such file. -/
  | missingFile
  /-- The bytes of the file are no text. -/
  | notText
  /-- The text writes no settings. -/
  | malformed
  /-- The settings, or what overrides them, are refused. -/
  | refused (fault : Fault)
  deriving DecidableEq

namespace Settings

/-- The base name that an item writes. -/
def baseNameOf? : Toml.Item → Option String
  | .text content => some content
  | _ => none

/-- The precision that an item writes. -/
def precisionOf? : Toml.Item → Option UInt8
  | .integer value =>
    if 0 ≤ value ∧ value < 256 then some (UInt8.ofNat value.toNat) else none
  | _ => none

/-- What the item under a key writes, or the default if the key is missing. -/
def entryOr {α : Type} (default : α) (read? : Toml.Item → Option α) (entries : Toml.Entries)
    (key : String) : Option α :=
  match entries.find? key with
  | none => some default
  | some item => read? item

/-- The settings that the entries of a document write. -/
def ofEntries? (entries : Toml.Entries) : Option Settings := do
  let defaults : Settings := {}
  some
    { baseName := ← entryOr defaults.baseName baseNameOf? entries "atomic_field_name"
      precision := ← entryOr defaults.precision precisionOf? entries "time_indicator_precision" }

/-- The settings that a text writes, overridden and valid. -/
def ofText (overrides : Overrides) (text : String) : Except LoadFault Settings :=
  match (Toml.Entries.ofText? text).bind ofEntries? with
  | none => .error .malformed
  | some settings => (settings.overridden overrides).mapError .refused

/-- The settings in a file that holds the given bytes, if it exists. -/
def ofFile (overrides : Overrides) : Option ByteArray → Except LoadFault Settings
  | none => .error .missingFile
  | some bytes =>
    match String.fromUTF8? bytes with
    | none => .error .notText
    | some text => ofText overrides text

end Settings
end Tabulate
