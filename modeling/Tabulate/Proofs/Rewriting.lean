import Mathlib.Logic.Relation
import Tabulate.Proofs.Readers

/-!
# Members that do not matter

A value may be rewritten by reordering the members of any object in it, and by inserting members
that a record does not declare.  What the value is read as does not change.  The new order may put a
tag behind the members that it selects, and which members may be inserted depends on the tag.

A declared member that is repeated is never read, as deep in the value as it may stand.
-/

namespace Tabulate
namespace Json

namespace Meaning

/-- What a member of an object is read for. -/
def ofMember (meaning : Meaning) (members : List (String × Json)) (name : String) : Meaning :=
  ((meaning.declared (.named members)).lookup name).getD plain

/-- What the element at a place of an array is read for. -/
def ofElement (meaning : Meaning) (elements : List Json) (place : Nat) : Meaning :=
  match meaning with
  | columns inner => column inner
  | _ => ((meaning.declared (.placed elements))[place]?).elim plain Prod.snd

end Meaning

/-- One value is another one, rewritten at one object inside it. -/
inductive Rewrites : Meaning → Json → Json → Prop
  /-- The members of an object are reordered. -/
  | permuted {meaning : Meaning} {members others : List (String × Json)}
    (perm : members.Perm others) : Rewrites meaning (.object members) (.object others)
  /-- A member that is not declared is inserted into a record. -/
  | inserted {meaning : Meaning} {before after : List (String × Json)} {name : String}
    {value : Json} (record : meaning.IsRecord)
    (unknown : name ∉ (meaning.declared (.named (before ++ after))).map Prod.fst) :
    Rewrites meaning (.object (before ++ after)) (.object (before ++ (name, value) :: after))
  /-- The value of a member is rewritten. -/
  | inMember {meaning : Meaning} {before after : List (String × Json)} {name : String}
    {value other : Json}
    (rewrites : Rewrites (meaning.ofMember (before ++ (name, value) :: after) name) value other) :
    Rewrites meaning (.object (before ++ (name, value) :: after))
      (.object (before ++ (name, other) :: after))
  /-- An element of an array is rewritten. -/
  | inElement {meaning : Meaning} {before after : List Json} {value other : Json}
    (rewrites : Rewrites (meaning.ofElement (before ++ value :: after) before.length) value other) :
    Rewrites meaning (.array (before ++ value :: after)) (.array (before ++ other :: after))

/-- A value that repeats a declared member, itself or in a part of it that is read. -/
inductive Repeats : Meaning → Json → Prop
  | twice {meaning : Meaning} {members : List (String × Json)} {member : String × Meaning}
    (known : member ∈ meaning.declared (.named members))
    (repeated : 2 ≤ (members.filter (·.1 = member.1)).length) : Repeats meaning (.object members)
  | inMember {meaning : Meaning} {members : List (String × Json)} {member : String × Meaning}
    {value : Json} (known : member ∈ meaning.declared (.named members))
    (inside : (member.1, value) ∈ members) (repeats : Repeats member.2 value) :
    Repeats meaning (.object members)
  | inElement {meaning : Meaning} {elements : List Json} {place : Nat} {value : Json}
    (found : elements[place]? = some value)
    (repeats : Repeats (meaning.ofElement elements place) value) :
    Repeats meaning (.array elements)

/-! ## Looking up members -/

namespace Record

variable {α : Type} {name : String}

theorem member?_of_repeated {members : List (String × α)}
    (repeated : 2 ≤ (members.filter (·.1 = name)).length) : member? name members = none := by
  rw [member?]
  generalize members.filter (·.1 = name) = found at repeated
  obtain _ | ⟨first, _ | ⟨second, rest⟩⟩ := found
  · simp at repeated
  · simp at repeated
  · rfl

theorem eq_some_of_mem {value : α} {members : List (String × α)} {part : Option α}
    (inside : (name, value) ∈ members) (found : member? name members = some part) :
    part = some value := by
  have inside_found : (name, value) ∈ members.filter (·.1 = name) := by simp [inside]
  rw [member?] at found
  generalize members.filter (·.1 = name) = named at found inside_found
  obtain _ | ⟨first, _ | ⟨second, rest⟩⟩ := named
  · cases inside_found
  · cases List.mem_singleton.mp inside_found
    exact (Option.some.inj found).symm
  · cases found

/-- The order of the members does not matter, for a repeated one is refused. -/
theorem member?_perm {members others : List (String × α)} (perm : members.Perm others) :
    member? name members = member? name others := by
  have found_perm := perm.filter (·.1 = name)
  by_cases repeated : 2 ≤ (members.filter (·.1 = name)).length
  · rw [member?_of_repeated repeated, member?_of_repeated (found_perm.length_eq ▸ repeated)]
  · rw [member?, member?]
    generalize members.filter (·.1 = name) = found at repeated found_perm
    obtain _ | ⟨first, _ | ⟨second, rest⟩⟩ := found
    · rw [List.nil_perm.mp found_perm]
    · rw [List.singleton_perm.mp found_perm]
    · simp at repeated

theorem member?_insert {other : String} (different : other ≠ name) (value : α)
    (before after : List (String × α)) :
    member? name (before ++ (other, value) :: after) = member? name (before ++ after) := by
  simp only [member?, List.filter_append, List.filter_cons, different, decide_false,
    Bool.false_eq_true, if_false]

theorem member?_replace {β : Type} {read : α → β} {other : String} {value value' : α}
    (same : other = name → read value = read value') (before after : List (String × α)) :
    (member? name (before ++ (other, value) :: after)).map (Option.map read) =
      (member? name (before ++ (other, value') :: after)).map (Option.map read) := by
  by_cases named : other = name
  · subst named
    simp only [member?, List.filter_append, List.filter_cons, decide_true, if_true]
    generalize before.filter (·.1 = other) = found, after.filter (·.1 = other) = found'
    obtain _ | ⟨first, _ | ⟨second, rest⟩⟩ := found
    · obtain _ | ⟨first, rest⟩ := found'
      · exact congrArg (some <| some ·) (same rfl)
      · rfl
    · rfl
    · rfl
  · rw [member?_insert named, member?_insert named]

end Record

/-! ## Rewritten values -/

theorem leaf_perm {members others : List (String × Json)} (perm : members.Perm others) :
    (object members).leaf = (object others).leaf := by
  match members, others, perm with
  | [], _, perm => rw [List.nil_perm.mp perm]
  | [_], _, perm => rw [List.singleton_perm.mp perm]
  | _ :: _ :: _, others, perm =>
      match others, perm.length_eq with
      | _ :: _ :: _, _ => rfl

theorem isScalar_leaf (json : Json) : json.leaf.isScalar = json.isScalar := by
  fun_cases leaf json <;> simp_all [isScalar]

theorem leaf_of_isScalar {json : Json} (scalar : json.isScalar) : json.leaf = json := by
  fun_cases leaf json <;> simp_all [isScalar]

theorem leaf_replace {name : String} {value other : Json} (leaf_eq : value.leaf = other.leaf)
    (before after : List (String × Json)) :
    (object (before ++ (name, value) :: after)).leaf =
      (object (before ++ (name, other) :: after)).leaf := by
  match before, after with
  | [], [] =>
      have scalar_eq : value.isScalar = other.isScalar := by
        rw [← isScalar_leaf, leaf_eq, isScalar_leaf]
      by_cases scalar : value.isScalar
      · rw [leaf_of_isScalar scalar, leaf_of_isScalar (scalar_eq ▸ scalar)] at leaf_eq
        rw [leaf_eq]
      · simp [leaf, scalar, scalar_eq ▸ scalar]
  | [], _ :: _ => rfl
  | [_], _ => rfl
  | _ :: _ :: _, _ => rfl

theorem toList?_replace {α : Type} {read : Json → Option α} {value other : Json}
    (same : read value = read other) (before after : List Json) :
    toList? read (.array (before ++ value :: after)) =
      toList? read (.array (before ++ other :: after)) := by
  simp only [toList?, List.mapM_append, List.mapM_cons, same]

theorem toList?_eq_none {α : Type} {read : Json → Option α} {elements : List Json} {value : Json}
    (inside : value ∈ elements) (refused : read value = none) :
    toList? read (.array elements) = none := by
  rw [toList?]
  obtain ⟨before, after, rfl⟩ := List.append_of_mem inside
  simp [List.mapM_append, List.mapM_cons, refused]

/-- Under distinct names, each entry is found. -/
theorem lookup_of_mem {α : Type} {entries : List (String × α)} {entry : String × α}
    (distinct : (entries.map Prod.fst).Nodup) (inside : entry ∈ entries) :
    entries.lookup entry.1 = some entry.2 := by
  induction entries with
  | nil => cases inside
  | cons first entries ih =>
      obtain ⟨fresh, distinct⟩ := List.nodup_cons.mp distinct
      cases inside with
      | head => exact List.lookup_cons_self
      | tail _ inside =>
          have different : entry.1 ≠ first.1 := by
            intro same
            exact fresh (same ▸ List.mem_map_of_mem inside)
          rw [List.lookup_cons, beq_false_of_ne different]
          exact ih distinct inside

namespace Meaning

variable {meaning : Meaning}

theorem ofMember_eq {members : List (String × Json)} {member : String × Meaning}
    (known : member ∈ meaning.declared (.named members)) :
    meaning.ofMember members member.1 = member.2 := by
  rw [ofMember, lookup_of_mem (meaning.distinct_declared _) known, Option.getD_some]

theorem isRecord_of_mem {record : Record Json} {member : String × Meaning}
    (known : member ∈ meaning.declared record) : meaning.IsRecord := by
  obtain isRecord | rfl | ⟨inner, rfl⟩ := meaning.isRecord_or
  · exact isRecord
  · cases known
  · cases known

theorem ofElement_eq {elements : List Json} (record : meaning.IsRecord) (place : Nat) :
    meaning.ofElement elements place =
      ((meaning.declared (.placed elements))[place]?).elim plain Prod.snd := by
  cases meaning with
  | columns => exact record.elim
  | _ => rfl

end Meaning

/-- One rewriting does not change what a value is read as. -/
theorem Rewrites.decode_eq {meaning : Meaning} {value other : Json}
    (rewrites : Rewrites meaning value other) : meaning.decode value = meaning.decode other := by
  induction rewrites with
  | @permuted meaning members others perm =>
      obtain record | rfl | ⟨inner, rfl⟩ := meaning.isRecord_or
      · have alike : Record.Alike (meaning.declared (.named members)) (.named members)
            (.named others) :=
          .named fun member _ => congrArg (Option.map _) (Record.member?_perm perm)
        exact (meaning.readsDeclared record).eq_of_alike alike
      · exact congrArg some (leaf_perm perm)
      · cases inner <;> rfl
  | @inserted meaning before after name value record unknown =>
      have alike : Record.Alike (meaning.declared (.named (before ++ after)))
          (.named (before ++ after)) (.named (before ++ (name, value) :: after)) := by
        refine .named fun member known => ?_
        have different : name ≠ member.1 := by
          rintro rfl
          exact unknown (List.mem_map_of_mem known)
        rw [Record.member?_insert different]
      exact (meaning.readsDeclared record).eq_of_alike alike
  | @inMember meaning before after name value other rewrites ih =>
      obtain record | rfl | ⟨inner, rfl⟩ := meaning.isRecord_or
      · have alike : Record.Alike (meaning.declared (.named (before ++ (name, value) :: after)))
            (.named (before ++ (name, value) :: after))
            (.named (before ++ (name, other) :: after)) := by
          refine .named fun member known => Record.member?_replace (fun name_eq => ?_) before after
          subst name_eq
          rwa [Meaning.ofMember_eq known] at ih
        exact (meaning.readsDeclared record).eq_of_alike alike
      · exact congrArg some (leaf_replace (Option.some.inj ih) before after)
      · cases inner <;> rfl
  | @inElement meaning before after value other rewrites ih =>
      obtain record | rfl | ⟨inner, rfl⟩ := meaning.isRecord_or
      · have alike : Record.Alike (meaning.declared (.placed (before ++ value :: after)))
            (.placed (before ++ value :: after)) (.placed (before ++ other :: after)) := by
          refine .placed (by simp) fun place member known => ?_
          obtain inside | rfl | beyond := Nat.lt_trichotomy place before.length
          · simp only [List.getElem?_append_left inside]
          · rw [Meaning.ofElement_eq record, known, Option.elim_some] at ih
            simp [ih]
          · obtain ⟨offset, rfl⟩ := Nat.exists_eq_add_of_lt beyond
            simp [List.getElem?_append_right, Nat.add_assoc]
        exact (meaning.readsDeclared record).eq_of_alike alike
      · rfl
      · cases inner with
        | false => exact toList?_replace ih before after
        | true => exact toList?_replace ih before after

/-- A value that repeats a declared member is not read. -/
theorem Repeats.decode_eq {meaning : Meaning} {value : Json} (repeats : Repeats meaning value) :
    meaning.decode value = none := by
  induction repeats with
  | @twice meaning members member known repeated =>
      have refused : Record.Refused (meaning.declared (.named members)) (.named members) := by
        refine .named known fun part found => ?_
        rw [Record.member?_of_repeated repeated] at found
        cases found
      exact (meaning.readsDeclared (Meaning.isRecord_of_mem known)).eq_none refused
  | @inMember meaning members member value known inside repeats ih =>
      have refused : Record.Refused (meaning.declared (.named members)) (.named members) :=
        .named known fun part found => ⟨value, Record.eq_some_of_mem inside found, ih⟩
      exact (meaning.readsDeclared (Meaning.isRecord_of_mem known)).eq_none refused
  | @inElement meaning elements place value found repeats ih =>
      obtain record | rfl | ⟨inner, rfl⟩ := meaning.isRecord_or
      · rw [Meaning.ofElement_eq record] at ih
        cases known : (meaning.declared (.placed elements))[place]? with
        | none =>
            rw [known] at ih
            exact absurd ih (Meaning.decode_plain_ne_none value)
        | some member =>
            rw [known] at ih
            exact (meaning.readsDeclared record).eq_none (.placed known found ih)
      · exact absurd ih (Meaning.decode_plain_ne_none value)
      · have inside := List.mem_of_getElem? found
        cases inner with
        | false => exact toList?_eq_none inside ih
        | true => exact toList?_eq_none inside ih

/-- What a value is read as depends on its declared members alone.  It does not change however often
the value is rewritten, and a value that repeats a declared member is not read. -/
theorem decoding_depends_on_declared (meaning : Meaning) (value : Json) :
    (∀ other, Relation.ReflTransGen (Rewrites meaning) value other →
        meaning.decode value = meaning.decode other) ∧
      (Repeats meaning value → meaning.decode value = none) := by
  refine ⟨fun other run => ?_, Repeats.decode_eq⟩
  induction run with
  | refl => rfl
  | tail _ rewrites ih => rw [ih, rewrites.decode_eq]

/-- The tag may come last, and members may be inserted that its case does not declare.  A tag that
stands twice is refused. -/
theorem decoding_depends_on_declared_rowtime :
    let inner := [("kind", natural 0), ("name", .text "at")]
    let first := object [("kind", .text "row_time"), ("expr", .object inner)]
    let last := object [("expr", .object (("expr", .null) :: inner)), ("kind", .text "row_time")]
    let twice := object [("kind", .text "row_time"), ("expr", .object (("kind", .null) :: inner))]
    Relation.ReflTransGen (Rewrites (.expression false)) first last ∧
      Repeats (.expression false) twice ∧
      Expression.ofJson? first = some (.rowtime (.reference "at")) ∧
      Expression.ofJson? first = Expression.ofJson? last ∧ Expression.ofJson? twice = none := by
  intro inner first last twice
  have inserted : Rewrites (.expression false) first
      (.object [("kind", .text "row_time"), ("expr", .object (("expr", .null) :: inner))]) := by
    refine @Rewrites.inMember _ [("kind", .text "row_time")] [] "expr" _ _ ?_
    exact @Rewrites.inserted _ [] inner "expr" .null trivial (by decide)
  have run : Relation.ReflTransGen (Rewrites (.expression false)) first last :=
    .tail (.single inserted) (.permuted (.swap _ _ _))
  have repeats : Repeats (.expression false) twice := by
    have inner_repeats : Repeats (.expression true) (.object (("kind", .null) :: inner)) :=
      @Repeats.twice _ _ ("kind", .plain) (.head _) (by decide)
    exact @Repeats.inMember _ _ ("expr", .expression true) _ (.tail _ (.head _))
      (.tail _ (.head _)) inner_repeats
  have read : Expression.ofJson? first = some (.rowtime (.reference "at")) := by decide
  exact ⟨run, repeats, read, (decoding_depends_on_declared _ first).1 last run,
    (decoding_depends_on_declared _ twice).2 repeats⟩

end Json
end Tabulate
