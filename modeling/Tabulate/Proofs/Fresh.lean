import Mathlib.Data.List.Perm.Subperm
import Mathlib.Data.Nat.Nth
import Mathlib.Data.Set.Finite.List
import Tabulate.Names
import Tabulate.Text.Numeral

/-!
# Fresh names

The candidates for a made-up name are the base name and the base name with each number behind it, in
this order.  They are distinct, so finitely many taken names leave some of them free, and the fresh
name is the first of these.  When free candidates are taken one after the other, the next fresh name
is the next free candidate.
-/

namespace Tabulate
namespace Names

/-- The candidates for a made-up name: the base name, then the base name with each number. -/
def candidate (base : String) : Nat → String
  | 0 => base
  | number + 1 => numbered base number

/-- The places of the candidates that are not taken. -/
def free (base : String) (taken : List String) : Set Nat :=
  {place | candidate base place ∉ taken}

/-- The free candidate with the given number of free candidates before it. -/
noncomputable def nthFree (base : String) (taken : List String) (count : Nat) : String :=
  candidate base (Nat.nth (· ∈ free base taken) count)

/-- The first free candidates, in order. -/
noncomputable def firstFree (base : String) (taken : List String) (count : Nat) : List String :=
  (List.range count).map (nthFree base taken)

variable {base : String} {taken : List String} {place : Nat}

theorem firstFree_succ (base : String) (taken : List String) (count : Nat) :
    firstFree base taken (count + 1) =
      firstFree base taken count ++ [nthFree base taken count] := by
  simp [firstFree, List.range_succ]

theorem length_numbered (base : String) (number : Nat) :
    (numbered base number).length = base.length + 1 + (toString number).length := by
  rw [numbered, String.length_append, String.length_append]
  rfl

theorem numbered_injective (base : String) : Function.Injective (numbered base) := by
  intro left right equal
  have numerals_eq : toString left = toString right := (String.append_right_inj _).mp equal
  have digits_eq : Text.digits left = Text.digits right := by
    simpa only [Text.digits, Nat.toString_eq_repr, Nat.toList_repr] using
      congrArg String.toList numerals_eq
  rw [← Text.ofDigits_digits left, digits_eq, Text.ofDigits_digits]

theorem candidate_injective (base : String) : Function.Injective (candidate base) := by
  have numbered_ne (number : Nat) : base ≠ numbered base number := by
    intro equal
    have lengths_eq := congrArg String.length equal
    rw [length_numbered] at lengths_eq
    omega
  intro left right equal
  cases left with
  | zero =>
      cases right with
      | zero => rfl
      | succ right => exact absurd equal (numbered_ne right)
  | succ left =>
      cases right with
      | zero => exact absurd equal.symm (numbered_ne left)
      | succ right => exact congrArg Nat.succ (numbered_injective base equal)

/-- No candidate is the star, unless the base name is: numbers stand behind a low line. -/
theorem candidate_ne_star (named : base ≠ "*") : candidate base place ≠ "*" := by
  cases place with
  | zero => exact named
  | succ number =>
      intro equal
      have lined : '_' ∈ (candidate base (number + 1)).toList := by simp [candidate, numbered]
      rw [equal] at lined
      exact absurd lined (by decide)

/-! ## Free candidates -/

/-- As long as all candidates are taken, there are no more of them than taken names. -/
theorem le_length_of_taken (allTaken : ∀ earlier < place, candidate base earlier ∈ taken) :
    place ≤ taken.length := by
  have distinct : ((List.range place).map (candidate base)).Nodup :=
    List.nodup_range.map (candidate_injective base)
  have subset : (List.range place).map (candidate base) ⊆ taken := by
    intro name member
    obtain ⟨earlier, before, rfl⟩ := List.mem_map.mp member
    exact allTaken earlier (List.mem_range.mp before)
  simpa using (distinct.subperm subset).length_le

theorem infinite_free (base : String) (taken : List String) : (free base taken).Infinite := by
  have finite : (Set.preimage (candidate base) {name | name ∈ taken}).Finite :=
    taken.finite_toSet.preimage (candidate_injective base).injOn
  exact finite.infinite_compl

/-- The fresh name is the first free candidate. -/
theorem fresh_eq_candidate (least : IsLeast (free base taken) place) :
    fresh base taken = candidate base place := by
  obtain ⟨unused, before⟩ := least
  have earlierTaken : ∀ earlier < place, candidate base earlier ∈ taken := by
    intro earlier lower
    by_contra absent
    exact Nat.not_le_of_lt lower (before absent)
  cases place with
  | zero => exact if_neg unused
  | succ number =>
      have baseTaken : base ∈ taken := earlierTaken 0 (Nat.succ_pos number)
      have bounded : number < taken.length := le_length_of_taken earlierTaken
      have found : (List.range taken.length).find? (numbered base · ∉ taken) = some number := by
        rw [List.find?_range_eq_some]
        refine ⟨decide_eq_true unused, List.mem_range.mpr bounded, ?_⟩
        intro earlier lower
        have numberTaken : numbered base earlier ∈ taken :=
          earlierTaken (earlier + 1) (Nat.succ_lt_succ lower)
        simp [numberTaken]
      rw [fresh, if_pos baseTaken, List.find?_map, Function.comp_def, found]
      rfl

/-- There is a first free candidate, and it is the fresh name. -/
theorem exists_isLeast_fresh (base : String) (taken : List String) :
    ∃ place, IsLeast (free base taken) place ∧ fresh base taken = candidate base place := by
  have least := isLeast_csInf (infinite_free base taken).nonempty
  exact ⟨_, least, fresh_eq_candidate least⟩

theorem fresh_notMem (base : String) (taken : List String) : fresh base taken ∉ taken := by
  obtain ⟨place, least, fresh_eq⟩ := exists_isLeast_fresh base taken
  rw [fresh_eq]
  exact least.1

theorem fresh_ne_star (named : base ≠ "*") (taken : List String) : fresh base taken ≠ "*" := by
  obtain ⟨place, -, fresh_eq⟩ := exists_isLeast_fresh base taken
  rw [fresh_eq]
  exact candidate_ne_star named

/-- The fresh name does not depend on the order or the repetition of the taken names. -/
theorem fresh_congr {others : List String} (same : ∀ name, name ∈ others ↔ name ∈ taken) :
    fresh base others = fresh base taken := by
  obtain ⟨place, least, fresh_eq⟩ := exists_isLeast_fresh base taken
  have free_eq : free base others = free base taken := by
    ext place
    exact not_congr (same _)
  rw [fresh_eq]
  exact fresh_eq_candidate (free_eq ▸ least)

/-- When the first free candidates are taken as well, the next one is the fresh name. -/
theorem fresh_append_firstFree (base : String) (taken : List String) (count : Nat) :
    fresh base (taken ++ firstFree base taken count) = nthFree base taken count := by
  have infinite := infinite_free base taken
  apply fresh_eq_candidate
  constructor
  case left =>
    show candidate base _ ∉ _
    rw [List.mem_append, not_or]
    refine ⟨Nat.nth_mem_of_infinite infinite count, ?_⟩
    intro member
    obtain ⟨earlier, before, equal⟩ := List.mem_map.mp member
    have counts_eq := Nat.nth_injective infinite (candidate_injective base equal)
    exact Nat.ne_of_lt (List.mem_range.mp before) counts_eq
  case right =>
    -- Any other free candidate is an earlier one, which is taken now, or stands behind.
    classical
    intro place unused
    have unusedBefore : place ∈ free base taken := by
      intro member
      exact unused (List.mem_append_left _ member)
    rw [← Nat.nth_count unusedBefore]
    apply Nat.nth_monotone infinite
    by_contra before
    apply unused
    apply List.mem_append_right
    refine List.mem_map.mpr ⟨_, List.mem_range.mpr (Nat.lt_of_not_le before), ?_⟩
    rw [nthFree, Nat.nth_count unusedBefore]

end Names
end Tabulate
