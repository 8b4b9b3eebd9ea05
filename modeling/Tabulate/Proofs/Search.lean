import Mathlib.Logic.Relation
import Tabulate.Proofs.Natural

/-!
# Searching for a free name

A search for a name tries the base name first and then goes through the numbers, as long as what it
tries is taken.  The states it passes through are the candidates in order, up to the first free one:
whenever a candidate is tried, all candidates before it are taken.  So a search ends after at most
as many turns as there are taken names, and it ends with the fresh name.
-/

namespace Tabulate
namespace Names

/-- A search that is under way. -/
structure Search where
  /-- The name to be tried. -/
  name : String
  /-- The number for the name after it. -/
  next : Nat

namespace Search

/-- A search begins with the base name. -/
def start (base : String) : Search where
  name := base
  next := 0

/-- A search whose name is taken turns to the base name with the next number. -/
def Turn (base : String) (taken : List String) (before after : Search) : Prop :=
  before.name ∈ taken ∧
    after = { name := numbered base before.next, next := before.next + 1 }

/-- A search passes through a state. -/
def Reaches (base : String) (taken : List String) : Search → Prop :=
  Relation.ReflTransGen (Turn base taken) (start base)

variable {base : String} {taken : List String} {search last : Search} {count : Nat}

/-- The state behind some turns, if so many of them are made: the name is one behind the number. -/
def behind (base : String) (turns : Nat) : Search where
  name := candidate base turns
  next := turns

theorem turn_behind_iff :
    Turn base taken (behind base count) search ↔
      candidate base count ∈ taken ∧ search = behind base (count + 1) :=
  Iff.rfl

/-- A search passes through a candidate exactly if all candidates before it are taken. -/
theorem reaches_iff :
    Reaches base taken search ↔
      ∃ turns, search = behind base turns ∧ ∀ earlier < turns, candidate base earlier ∈ taken := by
  constructor
  · intro reached
    induction reached with
    | refl => exact ⟨0, rfl, fun earlier before => absurd before (Nat.not_lt_zero earlier)⟩
    | tail reached turn ih =>
        obtain ⟨turns, rfl, allTaken⟩ := ih
        obtain ⟨used, rfl⟩ := turn_behind_iff.mp turn
        refine ⟨turns + 1, rfl, fun earlier before => ?_⟩
        obtain lower | rfl := Nat.lt_succ_iff_lt_or_eq.mp before
        · exact allTaken earlier lower
        · exact used
  · rintro ⟨turns, rfl, allTaken⟩
    induction turns with
    | zero => exact .refl
    | succ turns ih =>
        have reached := ih fun earlier before => allTaken earlier (Nat.lt_succ_of_lt before)
        exact reached.tail (turn_behind_iff.mpr ⟨allTaken turns (Nat.lt_succ_self turns), rfl⟩)

/-- No number is passed through that exceeds the count of the taken names. -/
theorem next_le_of_reaches (reached : Reaches base taken search) :
    search.next ≤ taken.length := by
  obtain ⟨turns, rfl, allTaken⟩ := reaches_iff.mp reached
  exact le_length_of_taken allTaken

/-- No search goes on for ever: each turn brings the number closer to the count of the taken
names. -/
theorem acc_of_reaches (reached : Reaches base taken search) :
    Acc (flip (Turn base taken)) search := by
  induction left : taken.length - search.next using Nat.strongRecOn generalizing search with
  | ind left ih =>
      refine .intro _ fun after turn => ?_
      have reachedAfter : Reaches base taken after := reached.tail turn
      have bounded := next_le_of_reaches reachedAfter
      have next_eq : after.next = search.next + 1 := by
        obtain ⟨-, rfl⟩ := turn
        rfl
      exact ih _ (by omega) reachedAfter rfl

/-- A search ends exactly at the first free candidate. -/
theorem ends_iff (least : IsLeast (free base taken) count) :
    Reaches base taken last ∧ last.name ∉ taken ↔ last = behind base count := by
  obtain ⟨unused, before⟩ := least
  constructor
  · rintro ⟨reached, lastUnused⟩
    obtain ⟨turns, rfl, allTaken⟩ := reaches_iff.mp reached
    have count_le : count ≤ turns := before lastUnused
    have turns_le : turns ≤ count := by
      by_contra beyond
      exact unused (allTaken count (Nat.lt_of_not_le beyond))
    rw [Nat.le_antisymm turns_le count_le]
  · rintro rfl
    refine ⟨reaches_iff.mpr ⟨count, rfl, fun earlier lower => ?_⟩, unused⟩
    by_contra absent
    exact Nat.not_le_of_lt lower (before absent)

end Search

/-- What the name made up beside some taken names promises. -/
structure MadeUp (base : String) (taken : List String) (name : String) : Prop where
  /-- It is not taken. -/
  notMem : name ∉ taken
  /-- It is the base name, if that is free. -/
  eq_base : base ∉ taken → name = base
  /-- It is the base name with the least free number otherwise, which is below the count of the
  taken names. -/
  eq_numbered : base ∈ taken →
    ∃ number, IsLeast {number | numbered base number ∉ taken} number ∧
      name = numbered base number ∧ number < taken.length
  /-- The search for it does not go on for ever. -/
  terminates : Acc (flip (Search.Turn base taken)) (.start base)
  /-- The number of the search stays within the count of the taken names. -/
  next_le : ∀ search, Search.Reaches base taken search → search.next ≤ taken.length
  /-- The search ends with it, and nowhere else. -/
  ends : ∃ turns, ∀ last, Search.Reaches base taken last ∧ last.name ∉ taken ↔
    last = { name, next := turns }

/-- The fresh name is what the search makes up. -/
theorem madeUp_fresh (base : String) (taken : List String) :
    MadeUp base taken (fresh base taken) := by
  obtain ⟨place, least, fresh_eq⟩ := exists_isLeast_fresh base taken
  constructor
  case notMem => exact fresh_notMem base taken
  case eq_base => exact fun unused => if_neg unused
  case eq_numbered =>
    intro used
    obtain ⟨unused, before⟩ := least
    cases place with
    | zero => exact absurd used unused
    | succ number =>
        have bounded : number < taken.length :=
          le_length_of_taken fun earlier lower => by
            by_contra absent
            exact Nat.not_le_of_lt lower (before absent)
        refine ⟨number, ⟨unused, fun other otherUnused => ?_⟩, fresh_eq, bounded⟩
        exact Nat.le_of_succ_le_succ (before otherUnused)
  case terminates => exact Search.acc_of_reaches .refl
  case next_le => exact fun search => Search.next_le_of_reaches
  case ends =>
    refine ⟨place, fun last => ?_⟩
    rw [fresh_eq]
    exact Search.ends_iff least

end Names

variable {shape : Shape} {type : ColumnType} {base : String}

/-- A lone value is named by searching for a free name, and only which names are taken matters. -/
theorem Shape.fieldNames_madeUp (access : shape.checkAccessible = .ok ())
    (lone : shape.layout = .atomic type) (named : base ≠ "*") (taken : List String) :
    ∃ name, shape.fieldNames base taken = .ok [name] ∧ Names.MadeUp base taken name ∧
      ∀ others : List String, (∀ other, other ∈ others ↔ other ∈ taken) →
        shape.fieldNames base others = .ok [name] := by
  have partless : shape.isComposite = false := by
    simp only [isComposite, lone]
  refine ⟨_, fieldNames_of_lone access partless named, Names.madeUp_fresh base taken, ?_⟩
  intro others same
  rw [fieldNames_of_lone access partless named, Names.fresh_congr same]

/-- Two numbers are passed over, and one with a leading zero does not stand in the way; the order of
the taken names and a repetition do not matter.  An empty base name can be numbered as well. -/
theorem Shape.fieldNames_madeUp_amount :
    (∃ name, amount.fieldNames "f0" ["f0_1", "f0", "f0_02", "f0_0", "f0"] = .ok [name] ∧
        Names.MadeUp "f0" ["f0_1", "f0", "f0_02", "f0_0", "f0"] name ∧ name = "f0_2" ∧
        amount.fieldNames "f0" ["f0", "f0_0", "f0_02", "f0_1"] = .ok [name]) ∧
      ∃ name, amount.fieldNames "" [""] = .ok [name] ∧ Names.MadeUp "" [""] name ∧
        name = "_0" := by
  have access : amount.checkAccessible = .ok () := rfl
  constructor
  · obtain ⟨name, found, madeUp, same⟩ := @fieldNames_madeUp amount .double "f0" access rfl
      (by decide) ["f0_1", "f0", "f0_02", "f0_0", "f0"]
    have name_eq : amount.fieldNames "f0" ["f0_1", "f0", "f0_02", "f0_0", "f0"] =
        .ok ["f0_2"] := rfl
    obtain rfl : name = "f0_2" := by simpa using found.symm.trans name_eq
    refine ⟨_, found, madeUp, rfl, same _ fun other => ?_⟩
    simp only [List.mem_cons, List.not_mem_nil]
    tauto
  · obtain ⟨name, found, madeUp, -⟩ := @fieldNames_madeUp amount .double "" access rfl
      (by decide) [""]
    have name_eq : amount.fieldNames "" [""] = .ok ["_0"] := rfl
    exact ⟨name, found, madeUp, by simpa using found.symm.trans name_eq⟩

end Tabulate
