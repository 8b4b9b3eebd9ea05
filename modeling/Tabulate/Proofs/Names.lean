import Mathlib.Data.List.Nodup
import Mathlib.Data.List.Sort
import Tabulate.Proofs.Outcome
import Tabulate.Schema

/-!
# Repeated names

A pass over some names remembers which of them have occurred and which have been reported, so it
reports a name at its second occurrence and never again.  `Names.repeated` therefore lists the names
that occur at least twice, each of them once and in the order of their second occurrences, and no
other list does.  A list of names passes `Names.checkDistinct` exactly if its names are distinct.
-/

namespace Tabulate
namespace Names

/-- A place is the second one of a name. -/
structure IsSecond (names : List String) (name : String) (place : Nat) : Prop where
  here : names[place]? = some name
  once_before : (names.take place).count name = 1

/-- A list of the repeated names. -/
structure ListsRepeated (names listed : List String) : Prop where
  /-- The names that occur at least twice are listed, and no others. -/
  mem_iff : ∀ name, name ∈ listed ↔ 2 ≤ names.count name
  /-- Each of them is listed once. -/
  nodup : listed.Nodup
  /-- They stand in the order of their second places. -/
  ordered : ∃ places, List.Forall₂ (IsSecond names) listed places ∧ places.Pairwise (· < ·)

variable {names listed : List String} {name other : String} {place later : Nat}

/-! ## Second places -/

namespace IsSecond

theorem lt_length (second : IsSecond names name place) : place < names.length :=
  (List.getElem?_eq_some_iff.mp second.here).1

theorem append (second : IsSecond names name place) (more : List String) :
    IsSecond (names ++ more) name place where
  here := by rw [List.getElem?_append_left second.lt_length, second.here]
  once_before := by
    rw [List.take_append_of_le_length second.lt_length.le, second.once_before]

theorem count_take_succ (second : IsSecond names name place) :
    (names.take (place + 1)).count name = 2 := by
  rw [List.take_add_one, second.here, Option.toList_some, List.count_append, second.once_before,
    List.count_singleton_self]

theorem two_le_count (second : IsSecond names name place) : 2 ≤ names.count name :=
  second.count_take_succ ▸ (List.take_sublist _ _).count_le name

/-- Behind a second place, the name has occurred too often. -/
theorem le_of_isSecond (second : IsSecond names name place) (again : IsSecond names name later) :
    later ≤ place := by
  by_contra behind
  have prefixes : (names.take (place + 1)).Sublist (names.take later) :=
    (List.take_prefix_take_left (by omega)).sublist
  have counts := prefixes.count_le name
  rw [second.count_take_succ, again.once_before] at counts
  omega

theorem unique (second : IsSecond names name place) (again : IsSecond names name later) :
    place = later :=
  Nat.le_antisymm (again.le_of_isSecond second) (second.le_of_isSecond again)

end IsSecond

theorem isSecond_concat (once : names.count name = 1) :
    IsSecond (names ++ [name]) name names.length where
  here := List.getElem?_concat_length
  once_before := by rw [List.take_left, once]

/-! ## The pass -/

namespace ListsRepeated

/-- A first or third occurrence adds nothing to the list. -/
theorem keep (lists : ListsRepeated names listed) (notOnce : names.count name ≠ 1) :
    ListsRepeated (names ++ [name]) listed where
  mem_iff := by
    intro other
    rw [lists.mem_iff, List.count_append]
    by_cases same : name = other
    · subst same
      rw [List.count_singleton_self]
      omega
    · rw [List.count_singleton, if_neg (by simpa using same), Nat.add_zero]
  nodup := lists.nodup
  ordered := by
    obtain ⟨places, seconds, increasing⟩ := lists.ordered
    exact ⟨places, seconds.imp fun _ _ second => second.append [name], increasing⟩

/-- A second occurrence is listed last. -/
theorem concat (lists : ListsRepeated names listed) (once : names.count name = 1) :
    ListsRepeated (names ++ [name]) (listed ++ [name]) where
  mem_iff := by
    intro other
    rw [List.mem_append, List.mem_singleton, lists.mem_iff, List.count_append]
    by_cases same : name = other
    · subst same
      rw [List.count_singleton_self]
      simp [once]
    · rw [List.count_singleton, if_neg (by simpa using same), Nat.add_zero]
      simp [Ne.symm same]
  nodup := by
    have unlisted : name ∉ listed := by
      rw [lists.mem_iff, once]
      decide
    exact List.nodup_append.mpr ⟨lists.nodup, List.nodup_singleton name,
      fun earlier member last lastMember => by
        rintro rfl
        exact unlisted (List.mem_singleton.mp lastMember ▸ member)⟩
  ordered := by
    obtain ⟨places, seconds, increasing⟩ := lists.ordered
    have kept := seconds.imp fun _ _ second => second.append [name]
    have inside : ∀ place ∈ places, place < names.length :=
      Outcome.forall_mem_of_forall₂ seconds fun _ _ second => second.lt_length
    refine ⟨places ++ [names.length], List.rel_append kept (.cons (isSecond_concat once) .nil), ?_⟩
    refine List.pairwise_append.mpr ⟨increasing, List.pairwise_singleton _ _, ?_⟩
    intro place member last lastMember
    obtain rfl := List.mem_singleton.mp lastMember
    exact inside place member

end ListsRepeated

/-- What a pass has found when it has gone through some names. -/
structure Tally.Covers (names : List String) (tally : Tally) : Prop where
  mem_seen : ∀ name, name ∈ tally.seen ↔ name ∈ names
  mem_reported : ∀ name, name ∈ tally.reported ↔ name ∈ tally.listed
  listed : ListsRepeated names tally.listed

namespace Tally

variable {tally : Tally}

theorem covers_nil : Covers [] {} where
  mem_seen := fun _ => Iff.rfl
  mem_reported := fun _ => Iff.rfl
  listed := ⟨by simp, List.nodup_nil, [], .nil, .nil⟩

/-- One more name keeps what a pass knows of the names. -/
theorem Covers.add (covers : Covers names tally) (name : String) :
    Covers (names ++ [name]) (tally.add name) := by
  by_cases known : name ∈ tally.seen
  · have member : name ∈ names := (covers.mem_seen name).mp known
    have present : 0 < names.count name := List.count_pos_iff.mpr member
    have told_iff : name ∈ tally.reported ↔ 2 ≤ names.count name := by
      rw [covers.mem_reported, covers.listed.mem_iff]
    -- A known name was reported exactly if this occurrence is the third or a later one.
    by_cases told : name ∈ tally.reported
    · have add_eq : tally.add name = tally := by simp [Tally.add, known, told]
      have repetition := told_iff.mp told
      rw [add_eq]
      exact
        { mem_seen := by simp [covers.mem_seen, member]
          mem_reported := covers.mem_reported
          listed := covers.listed.keep (by omega) }
    · have add_eq : tally.add name =
          { tally with
            reported := name :: tally.reported
            listed := tally.listed ++ [name] } := by simp [Tally.add, known, told]
      have single := mt told_iff.mpr told
      rw [add_eq]
      exact
        { mem_seen := by simp [covers.mem_seen, member]
          mem_reported := by simp [covers.mem_reported, or_comm]
          listed := covers.listed.concat (by omega) }
  · have add_eq : tally.add name = { tally with seen := name :: tally.seen } := by
      simp [Tally.add, known]
    have absent : names.count name = 0 :=
      List.count_eq_zero.mpr (mt (covers.mem_seen name).mpr known)
    rw [add_eq]
    exact
      { mem_seen := by simp [covers.mem_seen, or_comm]
        mem_reported := covers.mem_reported
        listed := covers.listed.keep (by omega) }

theorem Covers.foldl (covers : Covers names tally) (more : List String) :
    Covers (names ++ more) (more.foldl Tally.add tally) := by
  induction more generalizing names tally with
  | nil => rwa [List.append_nil]
  | cons name more ih =>
      rw [List.append_cons]
      exact ih (covers.add name)

end Tally

theorem listsRepeated_repeated (names : List String) : ListsRepeated names (repeated names) :=
  (Tally.covers_nil.foldl names).listed

/-! ## Repeated names -/

namespace ListsRepeated

/-- The places beside the listed names are the second places. -/
theorem mem_places_iff (lists : ListsRepeated names listed) {places : List Nat}
    (seconds : List.Forall₂ (IsSecond names) listed places) :
    place ∈ places ↔ ∃ name, IsSecond names name place := by
  constructor
  · intro member
    have each : ∀ place ∈ places, ∃ name, IsSecond names name place :=
      Outcome.forall_mem_of_forall₂ seconds fun name _ second => ⟨name, second⟩
    exact each place member
  · rintro ⟨name, second⟩
    have member : name ∈ listed := (lists.mem_iff name).mpr second.two_le_count
    obtain ⟨index, found⟩ := List.mem_iff_getElem?.mp member
    obtain ⟨also, alsoFound, alsoSecond⟩ := Outcome.exists_getElem?_of_forall₂ seconds found
    exact second.unique alsoSecond ▸ List.mem_of_getElem? alsoFound

/-- There is one list of the repeated names. -/
theorem unique {others : List String} (lists : ListsRepeated names listed)
    (listsOthers : ListsRepeated names others) : listed = others := by
  -- Both lists stand beside the second places in increasing order, and a place tells its name.
  obtain ⟨places, seconds, increasing⟩ := lists.ordered
  obtain ⟨otherPlaces, otherSeconds, otherIncreasing⟩ := listsOthers.ordered
  have places_eq : places = otherPlaces := by
    apply increasing.eq_of_mem_iff otherIncreasing
    intro place
    rw [lists.mem_places_iff seconds, listsOthers.mem_places_iff otherSeconds]
  subst places_eq
  apply Outcome.eq_of_forall₂_of_forall₂ seconds.flip otherSeconds.flip
  intro place _ left right leftSecond rightSecond
  exact Option.some.inj (leftSecond.here.symm.trans rightSecond.here)

end ListsRepeated

theorem listsRepeated_iff : ListsRepeated names listed ↔ listed = repeated names := by
  constructor
  · intro lists
    exact lists.unique (listsRepeated_repeated names)
  · rintro rfl
    exact listsRepeated_repeated names

theorem mem_repeated : name ∈ repeated names ↔ 2 ≤ names.count name :=
  (listsRepeated_repeated names).mem_iff name

theorem repeated_eq_nil_iff : repeated names = [] ↔ names.Nodup := by
  simp only [List.eq_nil_iff_forall_not_mem, mem_repeated, List.nodup_iff_count_le_one]
  constructor
  · intro absent name
    have := absent name
    omega
  · intro bound name twice
    have := bound name
    omega

theorem checkDistinct_of_nodup {names : List String} (distinct : names.Nodup) :
    checkDistinct names = .ok () := by
  simp [checkDistinct, repeated_eq_nil_iff.mpr distinct]

theorem checkDistinct_of_not_nodup {names : List String} (repetition : ¬names.Nodup) :
    checkDistinct names = .error (.repeatedNames names) := by
  simp [checkDistinct, repeated_eq_nil_iff, repetition]

theorem checkDistinct_eq_ok_iff {names : List String} {result : Unit} :
    checkDistinct names = .ok result ↔ names.Nodup := by
  simp [checkDistinct, repeated_eq_nil_iff]

end Names
end Tabulate
