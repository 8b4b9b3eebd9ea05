import Mathlib.Data.List.Nodup
import Tabulate.Derivation.ByName

/-!
# Looking up parts

A name stands for the first part that has it.  This file states what the lookups of a shape find,
and that they find nothing exactly if no part has the name or stands at the place.
-/

namespace Tabulate
namespace Shape

/-- Composite rows whose parts may be addressed by place. -/
def tuple (declaration : Declaration) (parts : List Column) : Shape where
  declaration := declaration
  layout := .composite parts true

/-- Composite rows whose parts are addressed by name only. -/
def record (declaration : Declaration) (parts : List Column) : Shape where
  declaration := declaration
  layout := .composite parts false

/-- Rows of a 64-bit integer and a text, which may be addressed by place. -/
def pair : Shape :=
  tuple { name := some "Pair" }
    [{ name := "f0", type := .bigInt }, { name := "f1", type := .varchar }]

/-- The rows of a pair, addressed by name only. -/
def namedPair : Shape :=
  record pair.declaration pair.parts

/-- Rows of a single number. -/
def amount : Shape where
  declaration := { name := some "Amount" }
  layout := .atomic .double

theorem isComposite_eq_true_iff {shape : Shape} :
    shape.isComposite = true ↔
      ∃ parts positional, shape.layout = .composite parts positional := by
  rw [isComposite]
  split
  next parts positional layout_eq => exact ⟨fun _ => ⟨parts, positional, layout_eq⟩, fun _ => rfl⟩
  next other =>
    simp only [Bool.false_eq_true, false_iff]
    rintro ⟨parts, positional, layout_eq⟩
    exact other parts positional layout_eq

/-- The part at `place` is the first one called `name`, and has the given type. -/
structure IsFirst (shape : Shape) (name : String) (place : Nat) (type : ColumnType) : Prop where
  part_eq : shape.parts[place]? = some { name, type }
  fresh_before : ∀ earlier < place, ∀ part, shape.parts[earlier]? = some part → part.name ≠ name

theorem typeAt?_eq_some_iff {shape : Shape} {place : Nat} {type : ColumnType} :
    shape.typeAt? place = some type ↔ ∃ name, shape.parts[place]? = some { name, type } := by
  simp only [typeAt?, Option.map_eq_some_iff]
  constructor
  · rintro ⟨part, found, rfl⟩
    exact ⟨part.name, found⟩
  · rintro ⟨name, found⟩
    exact ⟨_, found, rfl⟩

theorem lt_arity_of_typeAt? {shape : Shape} {place : Nat} {type : ColumnType}
    (found : shape.typeAt? place = some type) : place < shape.arity := by
  obtain ⟨name, found⟩ := typeAt?_eq_some_iff.mp found
  exact (List.getElem?_eq_some_iff.mp found).1

theorem IsFirst.typeAt?_eq {shape : Shape} {name : String} {place : Nat} {type : ColumnType}
    (first : shape.IsFirst name place type) : shape.typeAt? place = some type :=
  typeAt?_eq_some_iff.mpr ⟨name, first.part_eq⟩

theorem IsFirst.mem_partNames {shape : Shape} {name : String} {place : Nat} {type : ColumnType}
    (first : shape.IsFirst name place type) : name ∈ shape.partNames :=
  List.mem_map.mpr ⟨_, List.mem_of_getElem? first.part_eq, rfl⟩

/-- A name has at most one first part. -/
theorem IsFirst.unique {shape : Shape} {name : String} {left right : Nat}
    {leftType rightType : ColumnType} (leftFirst : shape.IsFirst name left leftType)
    (rightFirst : shape.IsFirst name right rightType) : left = right ∧ leftType = rightType := by
  have same : left = right := by
    rcases Nat.lt_trichotomy left right with before | equal | behind
    · exact absurd rfl (rightFirst.fresh_before left before _ leftFirst.part_eq)
    · exact equal
    · exact absurd rfl (leftFirst.fresh_before right behind _ rightFirst.part_eq)
  subst same
  have parts_eq := leftFirst.part_eq.symm.trans rightFirst.part_eq
  simp only [Option.some.injEq, Column.mk.injEq, true_and] at parts_eq
  exact ⟨rfl, parts_eq⟩

/-- In a shape of distinct names, every part is the first of its name. -/
theorem isFirst_of_nodup {shape : Shape} (distinct : shape.partNames.Nodup) {place : Nat}
    {part : Column} (found : shape.parts[place]? = some part) :
    shape.IsFirst part.name place part.type where
  part_eq := found
  fresh_before := by
    intro earlier earlier_lt other otherFound same
    have inside : place < shape.partNames.length := by
      simpa [partNames] using (List.getElem?_eq_some_iff.mp found).1
    apply List.nodup_iff_getElem?_ne_getElem?.mp distinct earlier place earlier_lt inside
    simp [partNames, found, otherFound, same]

theorem placeOf?_eq_none_iff {shape : Shape} {name : String} :
    shape.placeOf? name = none ↔ name ∉ shape.partNames := by
  simp [placeOf?, partNames, List.findIdx?_eq_none_iff]

theorem placeOf?_isSome_iff {shape : Shape} {name : String} :
    (shape.placeOf? name).isSome = true ↔ name ∈ shape.partNames := by
  rw [← Option.ne_none_iff_isSome, Ne, placeOf?_eq_none_iff, not_not]

theorem placeOf?_eq_some_iff {shape : Shape} {name : String} {place : Nat} :
    shape.placeOf? name = some place ↔ ∃ type, shape.IsFirst name place type := by
  simp only [placeOf?, List.findIdx?_eq_some_iff_getElem, decide_eq_true_eq]
  constructor
  · rintro ⟨inside, rfl, before⟩
    refine ⟨shape.parts[place].type, List.getElem?_eq_getElem inside, ?_⟩
    intro earlier earlier_lt part found
    obtain ⟨_, rfl⟩ := List.getElem?_eq_some_iff.mp found
    exact before earlier earlier_lt
  · rintro ⟨type, first⟩
    obtain ⟨inside, part_eq⟩ := List.getElem?_eq_some_iff.mp first.part_eq
    refine ⟨inside, by rw [part_eq], ?_⟩
    intro earlier earlier_lt
    exact first.fresh_before earlier earlier_lt _ (List.getElem?_eq_getElem (by omega))

theorem find?_eq_some_iff {shape : Shape} {name : String} {place : Nat} {type : ColumnType} :
    shape.find? name = some (place, type) ↔ shape.IsFirst name place type := by
  have search : shape.find? name = some (place, type) ↔
      shape.placeOf? name = some place ∧ shape.typeAt? place = some type := by
    simp only [find?, Option.bind_eq_bind, Option.bind_eq_some_iff, Option.some.injEq,
      Prod.mk.injEq]
    constructor
    · rintro ⟨_, placed, _, typed, rfl, rfl⟩
      exact ⟨placed, typed⟩
    · rintro ⟨placed, typed⟩
      exact ⟨place, placed, type, typed, rfl, rfl⟩
  rw [search, placeOf?_eq_some_iff]
  constructor
  · rintro ⟨⟨other, first⟩, typed⟩
    have same : other = type := Option.some.inj (first.typeAt?_eq.symm.trans typed)
    exact same ▸ first
  · intro first
    exact ⟨⟨type, first⟩, first.typeAt?_eq⟩

/-- Every name of a part has a first part. -/
theorem exists_isFirst_iff {shape : Shape} {name : String} :
    (∃ place type, shape.IsFirst name place type) ↔ name ∈ shape.partNames := by
  constructor
  · rintro ⟨place, type, first⟩
    exact first.mem_partNames
  · intro member
    obtain ⟨place, placed⟩ := Option.isSome_iff_exists.mp (placeOf?_isSome_iff.mpr member)
    obtain ⟨type, first⟩ := placeOf?_eq_some_iff.mp placed
    exact ⟨place, type, first⟩

theorem find?_eq_none_iff {shape : Shape} {name : String} :
    shape.find? name = none ↔ name ∉ shape.partNames := by
  simp only [Option.eq_none_iff_forall_ne_some, Prod.forall, Ne, find?_eq_some_iff,
    ← exists_isFirst_iff, not_exists]

end Shape
end Tabulate
