import Tabulate.Fault
import Tabulate.Json.Record
import Tabulate.Text.Numeral

/-!
# Settings

The settings of a derivation are the base name for lone values and the precision of time attributes.
Two environment variables may override them.  Overriding goes variable by variable: a name that has
been applied stays, even if the precision behind it cannot be read.
-/

namespace Tabulate

/-- The settings of a derivation. -/
structure Settings where
  /-- The base name for the field of a lone value. -/
  baseName : String := "f0"
  /-- The precision of the time attributes. -/
  precision : UInt8 := 3
  deriving DecidableEq

/-- The values of the environment variables that override settings. -/
structure Overrides where
  baseName : Option String := none
  precision : Option String := none
  deriving DecidableEq

/-- The overrides in an environment. -/
def Overrides.ofEnvironment (lookup : String → Option String) : Overrides where
  baseName := lookup baseNameVariable
  precision := lookup precisionVariable

namespace Settings

/-- Refuse settings under which no derivation is made. -/
def validate (settings : Settings) : Except Fault Unit :=
  if settings.baseName = "" then .error .emptyBaseName
  else if settings.baseName = "*" then .error .starBaseName
  else if settings.precision > greatestPrecision then
    .error (.precisionTooGreat settings.precision)
  else .ok ()

/-- The precision that an environment variable writes, blanks around it aside. -/
def readPrecision? (raw : String) : Option UInt8 :=
  Text.byte? (Text.trim raw.toList)

/-- The settings after overriding, and whether every override could be read. -/
def override (settings : Settings) (overrides : Overrides) : Settings × Except Fault Unit :=
  let named := { settings with baseName := overrides.baseName.getD settings.baseName }
  match overrides.precision with
  | none => (named, .ok ())
  | some raw =>
    match readPrecision? raw with
    | some precision => ({ named with precision }, .ok ())
    | none => (named, .error (.unreadablePrecision raw))

/-- The settings after overriding, if every override can be read and the result is valid. -/
def overridden (settings : Settings) (overrides : Overrides) : Except Fault Settings := do
  let (settings, outcome) := settings.override overrides
  outcome
  settings.validate
  return settings

/-- The settings of a process: the defaults with all overrides, or the defaults alone if that is
refused. -/
def ambient (overrides : Overrides) : Settings :=
  match overridden {} overrides with
  | .ok settings => settings
  | .error _ => {}

def toJson (settings : Settings) : Json :=
  .object
    [("atomic_field_name", .text settings.baseName),
      ("time_indicator_precision", .byte settings.precision)]

/-- The settings that a JSON value writes, each of them the default if it is missing. -/
def ofJson? (json : Json) : Option Settings := do
  let [baseName, precision] ←
    (← Json.Record.ofJson? json).fields? ["atomic_field_name", "time_indicator_precision"] | none
  let defaults : Settings := {}
  some
    { baseName := ← Json.orDefault defaults.baseName Json.toText? baseName
      precision := ← Json.orDefault defaults.precision Json.toByte? precision }

end Settings
end Tabulate
