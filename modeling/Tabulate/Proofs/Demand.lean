import Tabulate.Proofs.Soundness

/-!
# What expressions ask for

An expression tells under which name it asks for its field, and whether it asks for a time
attribute.  Whoever grants all expressions what they ask for grants fields that go together exactly
if the expressions do.
-/

namespace Tabulate
namespace Expression

/-- The name under which an expression asks for its field. -/
def outputName : Expression → String
  | reference name => name
  | renamed _ name => name
  | rowtime inner => inner.outputName
  | proctime inner => inner.outputName
  | unsupported description => description

/-- Whether an expression asks for the row-time attribute, under its own name or another. -/
def asksRowtime : Expression → Bool
  | rowtime _ => true
  | renamed (rowtime _) _ => true
  | _ => false

/-- Whether an expression asks for the proc-time attribute, under its own name or another. -/
def asksProctime : Expression → Bool
  | proctime _ => true
  | renamed (proctime _) _ => true
  | _ => false

/-- Expressions that ask for distinct names other than the star, and for at most one time attribute
of each kind. -/
structure Compatible (expressions : List Expression) : Prop where
  star_notMem : "*" ∉ expressions.map outputName
  names_nodup : (expressions.map outputName).Nodup
  rowtimes_le_one : expressions.countP asksRowtime ≤ 1
  proctimes_le_one : expressions.countP asksProctime ≤ 1

/-- The field is what the expression asks for. -/
structure IsMet (expression : Expression) (field : Field) : Prop where
  name_eq : expression.outputName = field.name
  isRowtime_eq : expression.asksRowtime = field.isRowtime
  isProctime_eq : expression.asksProctime = field.isProctime

/-- Fields that are asked for pass the checks across fields exactly if the expressions are
compatible. -/
theorem exists_checkAll_iff {expressions : List Expression} {fields : List Field}
    (met : List.Forall₂ IsMet expressions fields) :
    (∃ hasRowtime, Field.checkAll fields = .ok hasRowtime) ↔ Compatible expressions := by
  have names_eq := Outcome.map_eq_of_forall₂ met fun _ _ => IsMet.name_eq
  have rowtimes_eq := Outcome.countP_eq_of_forall₂ met fun _ _ => IsMet.isRowtime_eq
  have proctimes_eq := Outcome.countP_eq_of_forall₂ met fun _ _ => IsMet.isProctime_eq
  simp only [Field.checkAll_eq_ok_iff]
  constructor
  · rintro ⟨hasRowtime, starless, compatible, -⟩
    constructor
    case star_notMem => exact names_eq ▸ starless
    case names_nodup => exact names_eq ▸ compatible.names_nodup
    case rowtimes_le_one => exact rowtimes_eq ▸ compatible.rowtimes_le_one
    case proctimes_le_one => exact proctimes_eq ▸ compatible.proctimes_le_one
  · intro compatible
    refine ⟨_, names_eq ▸ compatible.star_notMem, ⟨?_, ?_, ?_⟩, rfl⟩
    · exact names_eq ▸ compatible.names_nodup
    · exact rowtimes_eq ▸ compatible.rowtimes_le_one
    · exact proctimes_eq ▸ compatible.proctimes_le_one

/-- A field that is asked for as the row-time attribute is that one, under the name asked for. -/
theorem IsMet.eq_ofRowtime {expression : Expression} {field : Field} {precision : UInt8}
    {typeAt? : Nat → Option ColumnType} (met : expression.IsMet field)
    (sourced : field.Sourced precision typeAt?) (asks : expression.asksRowtime = true) :
    field = .ofRowtime precision expression.outputName := by
  rw [met.isRowtime_eq] at asks
  rw [met.name_eq]
  cases sourced with
  | physical found => cases asks
  | rowtime name => rfl
  | proctime name => cases asks

/-- A field that is asked for as the proc-time attribute is that one, under the name asked for. -/
theorem IsMet.eq_ofProctime {expression : Expression} {field : Field} {precision : UInt8}
    {typeAt? : Nat → Option ColumnType} (met : expression.IsMet field)
    (sourced : field.Sourced precision typeAt?) (asks : expression.asksProctime = true) :
    field = .ofProctime precision expression.outputName := by
  rw [met.isProctime_eq] at asks
  rw [met.name_eq]
  cases sourced with
  | physical found => cases asks
  | rowtime name => cases asks
  | proctime name => rfl

/-- The time attributes that expressions ask for stand among the fields at the same places, under
the names asked for and with the given precision. -/
structure Timed (precision : UInt8) (expressions : List Expression) (fields : List Field) :
    Prop where
  rowtime_eq : ∀ (place : Nat) (expression : Expression),
    expressions[place]? = some expression → expression.asksRowtime = true →
      fields[place]? = some
        { name := expression.outputName
          origin := .rowtime
          type := .timestamp precision .rowtime }
  proctime_eq : ∀ (place : Nat) (expression : Expression),
    expressions[place]? = some expression → expression.asksProctime = true →
      fields[place]? = some
        { name := expression.outputName
          origin := .proctime
          type := .timestamp precision .proctime }

theorem timed_of_isMet {precision : UInt8} {typeAt? : Nat → Option ColumnType}
    {expressions : List Expression} {fields : List Field}
    (met : List.Forall₂ IsMet expressions fields)
    (sourced : ∀ field ∈ fields, field.Sourced precision typeAt?) :
    Timed precision expressions fields := by
  constructor
  case rowtime_eq =>
    intro place expression asked asks
    obtain ⟨field, found, fieldMet⟩ := Outcome.exists_getElem?_of_forall₂ met asked
    rw [found, fieldMet.eq_ofRowtime (sourced field (List.mem_of_getElem? found)) asks]
    rfl
  case proctime_eq =>
    intro place expression asked asks
    obtain ⟨field, found, fieldMet⟩ := Outcome.exists_getElem?_of_forall₂ met asked
    rw [found, fieldMet.eq_ofProctime (sourced field (List.mem_of_getElem? found)) asks]
    rfl

/-- Among compatible expressions, at most two ask for time attributes. -/
theorem Compatible.length_le_two {expressions timed : List Expression}
    (compatible : Compatible expressions) (sublist : timed.Sublist expressions)
    (asks : ∀ expression ∈ timed,
      expression.asksRowtime = true ∨ expression.asksProctime = true) :
    timed.length ≤ 2 := by
  have others_le : timed.countP (fun expression => ¬expression.asksRowtime) ≤
      timed.countP asksProctime := by
    apply List.countP_mono_left
    intro expression member other
    rcases asks expression member with rowtime | proctime
    · simp [rowtime] at other
    · exact proctime
  calc timed.length
      = timed.countP asksRowtime + timed.countP (fun expression => ¬expression.asksRowtime) :=
        List.length_eq_countP_add_countP asksRowtime
    _ ≤ expressions.countP asksRowtime + expressions.countP asksProctime :=
        Nat.add_le_add sublist.countP_le (Nat.le_trans others_le sublist.countP_le)
    _ ≤ 1 + 1 := Nat.add_le_add compatible.rowtimes_le_one compatible.proctimes_le_one

end Expression

/-- Behind the checks of the settings and of the declaration, a derivation succeeds exactly if
fields are granted that pass the checks across fields. -/
theorem Settings.exists_derive_iff {settings : Settings} {shape : Shape}
    {expressions : List Expression} (asked : expressions ≠ []) (valid : settings.validate = .ok ())
    (access : shape.checkAccessible = .ok ()) :
    (∃ schema, settings.derive shape expressions = .ok schema) ↔
      ∃ fields, shape.resolve settings.precision expressions = .ok fields ∧
        ∃ hasRowtime, Field.checkAll fields = .ok hasRowtime := by
  simp only [derive_eq_ok_iff asked, valid, Shape.checkAccessible_eq_ok_iff.mp access, true_and]
  constructor
  · rintro ⟨schema, resolved, checked⟩
    exact ⟨schema.fields, resolved, schema.hasRowtime, checked⟩
  · rintro ⟨fields, resolved, hasRowtime, checked⟩
    exact ⟨{ fields, hasRowtime }, resolved, checked⟩

/-- Where fields are granted as they are asked for, a derivation succeeds exactly if all expressions
are granted fields and go together. -/
theorem Settings.exists_derive_iff_compatible {settings : Settings} {shape : Shape}
    {expressions : List Expression} (asked : expressions ≠ []) (valid : settings.validate = .ok ())
    (access : shape.checkAccessible = .ok ())
    (met : ∀ fields, shape.resolve settings.precision expressions = .ok fields →
      List.Forall₂ Expression.IsMet expressions fields) :
    (∃ schema, settings.derive shape expressions = .ok schema) ↔
      (∃ fields, shape.resolve settings.precision expressions = .ok fields) ∧
        Expression.Compatible expressions := by
  rw [exists_derive_iff asked valid access, ← exists_and_right]
  refine exists_congr fun fields => and_congr_right fun resolved => ?_
  exact Expression.exists_checkAll_iff (met fields resolved)

end Tabulate
