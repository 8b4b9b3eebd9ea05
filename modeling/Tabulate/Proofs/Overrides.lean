import Mathlib.Data.List.TakeWhile
import Tabulate.Proofs.Derive

/-!
# Overrides

An environment variable writes a byte as decimal digits, after a plus sign or none, with blanks
around them.  Settings are overridden variable by variable.  If every variable that is set can be
read and the result is valid, the overridden settings are the given ones with these variables
applied; otherwise there are no overridden settings.
-/

namespace Tabulate

/-! ## Bytes between blanks -/

namespace Text

/-- The characters write a byte: digits behind at most one plus sign, between blanks. -/
inductive WritesByte (value : UInt8) : List Char → Prop
  | intro {left sign digits right : List Char}
      (left_blank : ∀ character ∈ left, isBlank character = true)
      (sign_eq : sign = [] ∨ sign = ['+'])
      (digits_ne : digits ≠ [])
      (all_digits : ∀ character ∈ digits, character.isDigit = true)
      (value_eq : ofDigits digits = value.toNat)
      (right_blank : ∀ character ∈ right, isBlank character = true) :
      WritesByte value (left ++ (sign ++ digits) ++ right)

theorem isBlank_of_isDigit {character : Char} (digit : character.isDigit = true) :
    isBlank character = false := by
  obtain ⟨zero_le, le_nine⟩ := Char.isDigit_iff_toNat.mp digit
  have zero_eq : '0'.toNat = 48 := rfl
  have nine_eq : '9'.toNat = 57 := rfl
  simp only [isBlank, covers, blankRanges, List.any_eq_false, List.forall_mem_cons,
    Bool.and_eq_true, decide_eq_true_eq]
  simp only [List.not_mem_nil, false_imp_iff, implies_true, and_true]
  omega

/-- Trimming takes off blanks at both ends. -/
theorem exists_eq_append_trim (characters : List Char) :
    ∃ left right, (∀ character ∈ left, isBlank character = true) ∧
      (∀ character ∈ right, isBlank character = true) ∧
      characters = left ++ trim characters ++ right := by
  let behind := characters.dropWhile isBlank
  refine ⟨characters.takeWhile isBlank, (behind.reverse.takeWhile isBlank).reverse, ?_, ?_, ?_⟩
  · intro character member
    exact List.mem_takeWhile_imp member
  · intro character member
    exact List.mem_takeWhile_imp (List.mem_reverse.mp member)
  · have kept : trim characters ++ (behind.reverse.takeWhile isBlank).reverse = behind := by
      rw [trim, ← List.reverse_append, List.takeWhile_append_dropWhile, List.reverse_reverse]
    rw [List.append_assoc, kept, List.takeWhile_append_dropWhile]

/-- Trimming takes off nothing else: characters without blanks come out as they were. -/
theorem trim_append {left core right : List Char}
    (left_blank : ∀ character ∈ left, isBlank character = true)
    (right_blank : ∀ character ∈ right, isBlank character = true)
    (inhabited : core ≠ []) (solid : ∀ character ∈ core, isBlank character = false) :
    trim (left ++ core ++ right) = core := by
  -- What is dropped from either end stops at the core, since its ends are not blank.
  have stops : ∀ {core : List Char}, core ≠ [] → (∀ character ∈ core, isBlank character = false) →
      ∀ rest, (core ++ rest).dropWhile isBlank = core ++ rest := by
    intro core inhabited solid rest
    obtain ⟨head, tail, rfl⟩ := List.exists_cons_of_ne_nil inhabited
    exact List.dropWhile_cons_of_neg (by simp [solid head List.mem_cons_self])
  have right_blank' : ∀ character ∈ right.reverse, isBlank character = true := by
    intro character member
    exact right_blank character (List.mem_reverse.mp member)
  have inhabited' : core.reverse ≠ [] := by simpa using inhabited
  have solid' : ∀ character ∈ core.reverse, isBlank character = false := by
    intro character member
    exact solid character (List.mem_reverse.mp member)
  rw [trim, List.append_assoc, List.dropWhile_append_of_pos left_blank, stops inhabited solid,
    List.reverse_append, List.dropWhile_append_of_pos right_blank']
  rw [← List.append_nil core.reverse, stops inhabited' solid', List.append_nil,
    List.reverse_reverse]

theorem unsignedByte?_eq_some_iff {characters : List Char} {value : UInt8} :
    unsignedByte? characters = some value ↔
      characters ≠ [] ∧ (∀ character ∈ characters, character.isDigit = true) ∧
        ofDigits characters = value.toNat := by
  rw [unsignedByte?, Option.ite_none_right_eq_some, List.all_eq_true, and_assoc, and_assoc]
  refine and_congr_right fun _ => and_congr_right fun _ => ?_
  rw [Option.some.injEq]
  constructor
  · rintro ⟨below, rfl⟩
    exact (UInt8.toNat_ofNat_of_lt' below).symm
  · intro value_eq
    rw [value_eq]
    exact ⟨value.toNat_lt, UInt8.ofNat_toNat⟩

/-- A byte is read from digits, with a plus sign before them or none. -/
theorem byte?_eq_some_iff {characters : List Char} {value : UInt8} :
    byte? characters = some value ↔
      ∃ sign digits, characters = sign ++ digits ∧ (sign = [] ∨ sign = ['+']) ∧
        unsignedByte? digits = some value := by
  rw [byte?.eq_def]
  split
  next rest =>
    constructor
    · intro read
      exact ⟨['+'], rest, rfl, .inr rfl, read⟩
    · rintro ⟨sign, digits, split_eq, rfl | rfl, read⟩
      · obtain ⟨-, all_digits, -⟩ := unsignedByte?_eq_some_iff.mp read
        have member : '+' ∈ [] ++ digits := split_eq ▸ List.mem_cons_self
        cases all_digits '+' member
      · obtain rfl : rest = digits := by simpa using split_eq
        exact read
  next unsigned =>
    constructor
    · intro read
      exact ⟨[], characters, rfl, .inl rfl, read⟩
    · rintro ⟨sign, digits, rfl, rfl | rfl, read⟩
      · exact read
      · exact absurd rfl (unsigned digits)

end Text

namespace Settings

/-- Exactly the values that write a byte are readable. -/
theorem readPrecision?_eq_some_iff {raw : String} {precision : UInt8} :
    readPrecision? raw = some precision ↔ Text.WritesByte precision raw.toList := by
  rw [readPrecision?, Text.byte?_eq_some_iff]
  constructor
  · rintro ⟨sign, digits, trim_eq, sign_eq, read⟩
    obtain ⟨digits_ne, all_digits, value_eq⟩ := Text.unsignedByte?_eq_some_iff.mp read
    obtain ⟨left, right, left_blank, right_blank, raw_eq⟩ := Text.exists_eq_append_trim raw.toList
    rw [raw_eq, trim_eq]
    exact .intro left_blank sign_eq digits_ne all_digits value_eq right_blank
  · intro written
    generalize raw.toList = characters at written
    obtain ⟨left_blank, sign_eq, digits_ne, all_digits, value_eq, right_blank⟩ := written
    next left sign digits right =>
    have inhabited : sign ++ digits ≠ [] := by simp [digits_ne]
    have solid : ∀ character ∈ sign ++ digits, Text.isBlank character = false := by
      intro character member
      rcases List.mem_append.mp member with signed | digit
      · rcases sign_eq with rfl | rfl
        · cases signed
        · obtain rfl := List.mem_singleton.mp signed
          rfl
      · exact Text.isBlank_of_isDigit (all_digits character digit)
    rw [Text.trim_append left_blank right_blank inhabited solid]
    exact ⟨sign, digits, rfl, sign_eq,
      Text.unsignedByte?_eq_some_iff.mpr ⟨digits_ne, all_digits, value_eq⟩⟩

end Settings

/-! ## Applying overrides -/

/-- The settings `after` are the settings `before` with every variable applied that is set. -/
structure Overrides.Applied (overrides : Overrides) (before after : Settings) : Prop where
  /-- A base name replaces the one before. -/
  baseName_eq : after.baseName = overrides.baseName.getD before.baseName
  /-- A precision that is set must be written as a byte. -/
  precision_of_some : ∀ raw, overrides.precision = some raw →
    Text.WritesByte after.precision raw.toList
  /-- A precision that is not set stays as it was. -/
  precision_of_none : overrides.precision = none → after.precision = before.precision

namespace Settings

variable {before after : Settings} {overrides : Overrides}

/-- Every variable is applied exactly if the precision can be read when it is set. -/
theorem override_eq_ok_iff :
    before.override overrides = (after, .ok ()) ↔ overrides.Applied before after := by
  obtain ⟨baseName, precision⟩ := after
  constructor
  · intro applied
    rw [override] at applied
    split at applied
    next unset =>
      cases applied
      exact ⟨rfl, by simp [unset], fun _ => rfl⟩
    next raw set =>
      split at applied
      next found read =>
        cases applied
        refine ⟨rfl, ?_, by simp [set]⟩
        intro other other_eq
        obtain rfl := Option.some.inj (set.symm.trans other_eq)
        exact readPrecision?_eq_some_iff.mp read
      next => cases applied
  · rintro ⟨rfl, precision_of_some, precision_of_none⟩
    rw [override]
    split
    next unset => rw [← precision_of_none unset]
    next raw set =>
      have read := readPrecision?_eq_some_iff.mpr (precision_of_some raw set)
      simp only [read]

/-- Settings are overridden exactly by applying every variable that is set, with a valid result. -/
theorem overridden_eq_ok_iff :
    before.overridden overrides = .ok after ↔
      overrides.Applied before after ∧ after.validate = .ok () := by
  rw [overridden, ← override_eq_ok_iff]
  obtain ⟨settings, outcome⟩ := before.override overrides
  simp only [Outcome.then_eq_ok_iff, Outcome.pure_eq_ok, Except.ok.injEq, Prod.mk.injEq]
  constructor
  · rintro ⟨applied, valid, rfl⟩
    exact ⟨⟨rfl, applied⟩, valid⟩
  · rintro ⟨⟨rfl, applied⟩, valid⟩
    exact ⟨applied, valid, rfl⟩

end Settings
end Tabulate
