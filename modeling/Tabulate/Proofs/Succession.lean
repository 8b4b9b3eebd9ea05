import Tabulate.Proofs.Overrides

/-!
# Overrides in succession

Settings can be overridden again and again, each time in another environment.  Overriding stops at a
precision that cannot be read, but a base name has been applied by then and stays.  So what a
refused call changes is the base name at most, and all later calls start from there.
-/

namespace Tabulate

/-- What a call that overrides settings leaves of the settings `before`: those after it, with its
outcome. -/
structure Overrides.Accounts (overrides : Overrides) (before : Settings)
    (call : Settings × Except Fault Unit) : Prop where
  /-- A call that is not refused has applied every variable that is set, and nothing else. -/
  applied_of_ok : call.2 = .ok () → overrides.Applied before call.1
  /-- A call is refused exactly if the precision is set and cannot be read. -/
  refused_iff : (∃ fault, call.2 = .error fault) ↔
    ∃ raw, overrides.precision = some raw ∧
      ∀ precision, ¬Text.WritesByte precision raw.toList
  /-- A refused call keeps the precision. -/
  precision_of_error : ∀ fault, call.2 = .error fault → call.1.precision = before.precision
  /-- A refused call has applied a base name that is set. -/
  baseName_of_error : ∀ fault, call.2 = .error fault →
    call.1.baseName = overrides.baseName.getD before.baseName
  /-- A refused call changes nothing at all if it sets no other base name. -/
  eq_of_error : ∀ fault, call.2 = .error fault →
    (∀ name, overrides.baseName = some name → name = before.baseName) → call.1 = before

namespace Settings

/-- The settings after each of several overrides in turn, with the outcome of each. -/
def overrideEach : Settings → List Overrides → List (Settings × Except Fault Unit)
  | _, [] => []
  | settings, overrides :: rest =>
    let call := settings.override overrides
    call :: overrideEach call.1 rest

/-- The settings before the first of several overrides, and after each of them. -/
def states (start : Settings) (calls : List Overrides) : List Settings :=
  start :: (start.overrideEach calls).map Prod.fst

variable {before : Settings} {overrides : Overrides}

/-! ## One call -/

/-- A refused call has met a precision that cannot be read, and has applied the base name. -/
theorem override_eq_error_iff {after : Settings} {fault : Fault} :
    before.override overrides = (after, .error fault) ↔
      ∃ raw, overrides.precision = some raw ∧
        (∀ precision, ¬Text.WritesByte precision raw.toList) ∧
        after = { before with baseName := overrides.baseName.getD before.baseName } ∧
        fault = .unreadablePrecision raw := by
  simp only [← readPrecision?_eq_some_iff, ← Option.eq_none_iff_forall_ne_some]
  rw [override]
  split
  next unset => simp [unset]
  next raw set =>
    split
    next precision read => simp [set, read]
    next unread => simp [set, unread, eq_comm]

theorem accounts_override (overrides : Overrides) (before : Settings) :
    overrides.Accounts before (before.override overrides) := by
  cases called : before.override overrides with
  | mk after outcome =>
    cases outcome with
    | ok result =>
        have applied := override_eq_ok_iff.mp called
        constructor
        case applied_of_ok => exact fun _ => applied
        case refused_iff =>
          constructor
          · rintro ⟨fault, ⟨⟩⟩
          · rintro ⟨raw, set, unread⟩
            exact absurd (applied.precision_of_some raw set) (unread _)
        case precision_of_error => exact fun _ => nofun
        case baseName_of_error => exact fun _ => nofun
        case eq_of_error => exact fun _ => nofun
    | error fault =>
        obtain ⟨raw, set, unread, rfl, rfl⟩ := override_eq_error_iff.mp called
        constructor
        case applied_of_ok => exact nofun
        case refused_iff => exact ⟨fun _ => ⟨raw, set, unread⟩, fun _ => ⟨_, rfl⟩⟩
        case precision_of_error => exact fun _ _ => rfl
        case baseName_of_error => exact fun _ _ => rfl
        case eq_of_error =>
          intro _ _ same
          cases named : overrides.baseName with
          | none => rfl
          | some name =>
              obtain rfl := same name named
              rfl

/-! ## Runs -/

variable {start : Settings} {calls : List Overrides} {place : Nat}

/-- Each call overrides the settings that the one before it left. -/
theorem getElem?_overrideEach (asked : calls[place]? = some overrides) :
    ∃ before, (states start calls)[place]? = some before ∧
      (states start calls)[place + 1]? = some (before.override overrides).1 ∧
      (start.overrideEach calls)[place]? = some (before.override overrides) := by
  induction calls generalizing start place with
  | nil => cases asked
  | cons first rest ih =>
      cases place with
      | zero =>
          obtain rfl := Option.some.inj asked
          exact ⟨start, rfl, rfl, rfl⟩
      | succ place => exact ih asked

/-- A refused call can change the settings: a base name stays although the precision beside it
cannot be read. -/
theorem override_changed_by_refused_call :
    let environment := fun key =>
      List.lookup key [(baseNameVariable, "value"), (precisionVariable, "high")]
    overrideEach {} [.ofEnvironment environment] =
        [({ baseName := "value" }, .error (.unreadablePrecision "high"))] ∧
      states {} [.ofEnvironment environment] = [{}, { baseName := "value" }] ∧
      ({ baseName := "value" } : Settings) ≠ {} := by
  intro environment
  exact ⟨rfl, rfl, by decide⟩

/-- In any succession of environments, a call that is not refused applies exactly the variables that
are set, and a refused one the base name at most. -/
theorem accounts_of_overrideEach {environments : List (String → Option String)}
    {lookup : String → Option String} (start : Settings)
    (asked : environments[place]? = some lookup) :
    ∃ before call,
      (states start (environments.map .ofEnvironment))[place]? = some before ∧
      (start.overrideEach (environments.map .ofEnvironment))[place]? = some call ∧
      (states start (environments.map .ofEnvironment))[place + 1]? = some call.1 ∧
      (Overrides.ofEnvironment lookup).Accounts before call := by
  have called : (environments.map Overrides.ofEnvironment)[place]? =
      some (.ofEnvironment lookup) := by
    rw [List.getElem?_map, asked, Option.map_some]
  obtain ⟨before, beforeFound, afterFound, callFound⟩ := getElem?_overrideEach called
  exact ⟨before, _, beforeFound, callFound, afterFound, accounts_override _ before⟩

/-- Between two calls that apply what is set, a refused one keeps the precision of the first and
hands its own base name on to the last. -/
theorem accounts_of_overrideEach_thrice :
    let environments : List (String → Option String) :=
      [fun key => List.lookup key [(baseNameVariable, "early"), (precisionVariable, " 6 ")],
        fun key => List.lookup key [(baseNameVariable, "late"), (precisionVariable, "high")],
        fun key => List.lookup key [(precisionVariable, "+9")]]
    overrideEach {} (environments.map .ofEnvironment) =
        [({ baseName := "early", precision := 6 }, .ok ()),
          ({ baseName := "late", precision := 6 }, .error (.unreadablePrecision "high")),
          ({ baseName := "late", precision := 9 }, .ok ())] ∧
      ∀ lookup, environments[1]? = some lookup →
        (Overrides.ofEnvironment lookup).Accounts { baseName := "early", precision := 6 }
          ({ baseName := "late", precision := 6 }, .error (.unreadablePrecision "high")) := by
  intro environments
  refine ⟨rfl, fun lookup asked => ?_⟩
  obtain ⟨before, call, beforeFound, callFound, -, accounts⟩ := accounts_of_overrideEach {} asked
  obtain rfl : { baseName := "early", precision := 6 } = before := Option.some.inj beforeFound
  obtain rfl : ({ baseName := "late", precision := 6 }, .error (.unreadablePrecision "high")) =
    call := Option.some.inj callFound
  exact accounts

end Settings
end Tabulate
