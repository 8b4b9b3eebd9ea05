import Mathlib.Data.Option.Basic
import Tabulate.Expression.Json
import Tabulate.Field.Json
import Tabulate.Shape.Json
import Tabulate.Table

/-!
# What values are read for

The place of a value decides what it is read for: plain data, a list of columns, or a record of some
kind.  A record declares members, each with a meaning of its own, and a tagged record declares those
of the case that its tag names.

Two records are alike if their declared members are, and a record is refused if one of its declared
members is repeated or refused.  Both carry over to the members that are taken from a record, and to
the record behind a tag.
-/

namespace Tabulate
namespace Json

/-! ## Plain data -/

/-- Whether a value holds no other value. -/
def isScalar : Json → Bool
  | .array _ => false
  | .object members => members.isEmpty
  | _ => true

/-- What the readers of plain data see of a value.  They read nothing from an array, and something
from an object only if it has a single member, which holds no other value. -/
def leaf : Json → Json
  | .array _ => .array []
  | .object [] => .object []
  | .object [(name, value)] => if value.isScalar then .object [(name, value)] else .array []
  | .object _ => .array []
  | value => value

theorem toText?_leaf (json : Json) : json.leaf.toText? = json.toText? := by
  fun_cases leaf json <;> rfl

theorem toByte?_leaf (json : Json) : json.leaf.toByte? = json.toByte? := by
  fun_cases leaf json <;> rfl

theorem toBool?_leaf (json : Json) : json.leaf.toBool? = json.toBool? := by
  fun_cases leaf json <;> rfl

theorem toCase?_leaf (cases : List String) (json : Json) :
    json.leaf.toCase? cases = json.toCase? cases := by
  fun_cases leaf json <;> rfl

theorem nameOfJson?_leaf (json : Json) :
    Declaration.nameOfJson? json.leaf = Declaration.nameOfJson? json := by
  fun_cases leaf json <;> rfl

/-- A value that holds another one is an array or an object with members. -/
theorem eq_of_not_isScalar {json : Json} (holding : ¬json.isScalar = true) :
    (∃ elements, json = .array elements) ∨
      ∃ member members, json = .object (member :: members) := by
  cases json with
  | array elements => exact .inl ⟨elements, rfl⟩
  | object members =>
      cases members with
      | nil => exact absurd rfl holding
      | cons member members => exact .inr ⟨member, members, rfl⟩
  | _ => exact absurd rfl holding

theorem toName?_leaf (json : Json) : json.leaf.toName? = json.toName? := by
  fun_cases leaf json with
  | case4 name value holding =>
      obtain ⟨elements, rfl⟩ | ⟨member, members, rfl⟩ := eq_of_not_isScalar holding <;> rfl
  | _ => simp_all [toName?]

theorem toInnerName?_leaf (json : Json) : json.leaf.toInnerName? = json.toInnerName? := by
  fun_cases leaf json with
  | case4 name value holding =>
      obtain ⟨elements, rfl⟩ | ⟨member, members, rfl⟩ := eq_of_not_isScalar holding <;> rfl
  | _ => simp_all [toInnerName?, toName?]

theorem originOfJson?_leaf (json : Json) : Origin.ofJson? json.leaf = Origin.ofJson? json := by
  fun_cases leaf json with
  | case4 name value holding =>
      by_cases physical : name = "physical"
      · obtain ⟨elements, rfl⟩ | ⟨member, members, rfl⟩ := eq_of_not_isScalar holding <;>
          simp [physical, Origin.ofJson?, toName?, toNatBelow?, toNat?]
      · obtain ⟨elements, rfl⟩ | ⟨member, members, rfl⟩ := eq_of_not_isScalar holding <;>
          simp [physical, Origin.ofJson?, toName?]
  | _ => simp_all [Origin.ofJson?, toName?]

theorem visibilityOfJson?_leaf (json : Json) :
    Visibility.ofJson? json.leaf = Visibility.ofJson? json := by
  rw [Visibility.ofJson?, toName?_leaf, Visibility.ofJson?]

theorem nestingOfJson?_leaf (json : Json) : Nesting.ofJson? json.leaf = Nesting.ofJson? json := by
  rw [Nesting.ofJson?, toName?_leaf, Nesting.ofJson?]

theorem roleOfJson?_leaf (json : Json) :
    ColumnType.roleOfJson? json.leaf = ColumnType.roleOfJson? json := by
  rw [ColumnType.roleOfJson?, toInnerName?_leaf, ColumnType.roleOfJson?]

/-! ## Meanings -/

/-- What a value is read for.  The types and expressions inside a tagged record are read with tags
that may also be numbers. -/
inductive Meaning where
  | plain
  | declaration
  | shape
  | columnType (inner : Bool)
  | column (inner : Bool)
  | columns (inner : Bool)
  | expression (inner : Bool)
  | field
  | table

namespace Meaning

/-- What the reader of a meaning returns. -/
def Outcome : Meaning → Type
  | plain => Json
  | declaration => Declaration
  | shape => Shape
  | columnType _ => ColumnType
  | column _ => Column
  | columns _ => List Column
  | expression _ => Expression
  | field => Field
  | table => Table

/-- The reader of a meaning. -/
def decode : (meaning : Meaning) → Json → Option meaning.Outcome
  | plain => fun json => some json.leaf
  | declaration => Declaration.ofJson?
  | shape => Shape.ofJson?
  | columnType false => ColumnType.ofJson?
  | columnType true => ColumnType.ofInnerJson?
  | column false => Column.ofJson?
  | column true => Column.ofInnerJson?
  | columns false => toList? Column.ofJson?
  | columns true => toList? Column.ofInnerJson?
  | expression false => Expression.ofJson?
  | expression true => Expression.ofInnerJson?
  | field => Field.ofJson?
  | table => Table.ofJson?

/-- The reader of a tag, inside a tagged record or not. -/
def readTag (inner : Bool) (cases : List String) : Json → Option String :=
  if inner then toCase? cases else toText?

theorem readTag_leaf (inner : Bool) (cases : List String) (json : Json) :
    readTag inner cases json.leaf = readTag inner cases json := by
  cases inner with
  | false => exact toText?_leaf json
  | true => exact toCase?_leaf cases json

/-- The members that a type of a case declares, besides its tag. -/
def ofType : String → List (String × Meaning)
  | "decimal" => [("precision", plain), ("scale", plain)]
  | "time" => [("precision", plain)]
  | "timestamp" => [("precision", plain), ("kind", plain)]
  | "raw" => [("type_name", plain)]
  | _ => []

/-- The members that a layout of a case declares, besides its tag. -/
def ofLayout : String → List (String × Meaning)
  | "atomic" => [("data_type", columnType true)]
  | "composite" => [("fields", columns true), ("positional", plain)]
  | _ => []

/-- The members that an expression of a case declares, besides its tag. -/
def ofExpression : String → List (String × Meaning)
  | "reference" => [("name", plain)]
  | "alias" => [("expr", expression true), ("name", plain)]
  | "row_time" => [("expr", expression true)]
  | "proc_time" => [("expr", expression true)]
  | "unsupported" => [("description", plain)]
  | _ => []

/-- The members that a tagged record declares: its tag, and those of the case that it names. -/
def tagged (tag : String) (readTag : Json → Option String)
    (members : String → List (String × Meaning)) (record : Record Json) :
    List (String × Meaning) :=
  (tag, plain) :: (record.tagged? tag readTag).elim [] fun (name, _) => members name

/-- The members that a record declares for a meaning, in order. -/
def declared : Meaning → Record Json → List (String × Meaning)
  | plain, _ => []
  | declaration, _ => [("name", plain), ("visibility", plain), ("nesting", plain)]
  | shape, record =>
    ("type_class", declaration) :: tagged "kind" (toCase? Layout.cases) ofLayout record
  | columnType inner, record => tagged "type" (readTag inner ColumnType.cases) ofType record
  | column inner, _ => [("name", plain), ("data_type", columnType inner)]
  | columns _, _ => []
  | expression inner, record => tagged "kind" (readTag inner Expression.cases) ofExpression record
  | field, _ => [("name", plain), ("index", plain), ("data_type", columnType false)]
  | table, _ => [("columns", columns false)]

theorem distinct_ofType (name : String) : ("type" :: (ofType name).map Prod.fst).Nodup := by
  unfold ofType
  split <;> decide

theorem distinct_ofLayout (name : String) :
    ("type_class" :: "kind" :: (ofLayout name).map Prod.fst).Nodup := by
  unfold ofLayout
  split <;> decide

theorem distinct_ofExpression (name : String) :
    ("kind" :: (ofExpression name).map Prod.fst).Nodup := by
  unfold ofExpression
  split <;> decide

/-- No name is declared twice. -/
theorem distinct_declared (meaning : Meaning) (record : Record Json) :
    ((meaning.declared record).map Prod.fst).Nodup := by
  cases meaning with
  | shape =>
      rw [declared, tagged]
      cases record.tagged? "kind" (toCase? Layout.cases) with
      | none => decide
      | some found => exact distinct_ofLayout found.1
  | columnType inner =>
      rw [declared, tagged]
      cases record.tagged? "type" (readTag inner ColumnType.cases) with
      | none => decide
      | some found => exact distinct_ofType found.1
  | expression inner =>
      rw [declared, tagged]
      cases record.tagged? "kind" (readTag inner Expression.cases) with
      | none => decide
      | some found => exact distinct_ofExpression found.1
  | _ => simp [declared]

/-- Whether the values of a meaning are records. -/
def IsRecord : Meaning → Prop
  | plain => False
  | columns _ => False
  | _ => True

theorem isRecord_or (meaning : Meaning) :
    meaning.IsRecord ∨ meaning = plain ∨ ∃ inner, meaning = columns inner := by
  cases meaning with
  | plain => exact .inr (.inl rfl)
  | columns inner => exact .inr (.inr ⟨inner, rfl⟩)
  | _ => exact .inl trivial

/-- Plain data is never refused as such. -/
@[simp]
theorem decode_plain_ne_none (json : Json) : plain.decode json ≠ none := nofun

end Meaning

/-! ## Records seen through their declared members -/

/-- Readers of plain data cannot tell apart values with the same leaf. -/
theorem read_eq_of_leaf {α : Type} {read : Json → Option α} {value other : Json}
    (read_leaf : ∀ json, read json.leaf = read json)
    (alike : Meaning.plain.decode value = Meaning.plain.decode other) :
    read value = read other := by
  have leaf_eq : value.leaf = other.leaf := Option.some.inj alike
  rw [← read_leaf value, leaf_eq, read_leaf]

/-- The members of two records in the declared order, each missing in both or read alike in both. -/
inductive PartsAlike : List (String × Meaning) → List (Option Json) → List (Option Json) → Prop
  | nil : PartsAlike [] [] []
  | missing {member : String × Meaning} {declared : List (String × Meaning)}
    {parts others : List (Option Json)} (rest : PartsAlike declared parts others) :
    PartsAlike (member :: declared) (none :: parts) (none :: others)
  | present {member : String × Meaning} {declared : List (String × Meaning)}
    {parts others : List (Option Json)} {value other : Json}
    (alike : member.2.decode value = member.2.decode other)
    (rest : PartsAlike declared parts others) :
    PartsAlike (member :: declared) (some value :: parts) (some other :: others)

/-- One of the members of a record in the declared order is refused by its reader. -/
def PartsRefused : List (String × Meaning) → List (Option Json) → Prop
  | member :: declared, part :: parts =>
    (∃ value ∈ part, member.2.decode value = none) ∨ PartsRefused declared parts
  | _, _ => False

namespace Record

/-- Two records whose declared members are read alike. -/
inductive Alike (declared : List (String × Meaning)) : Record Json → Record Json → Prop
  | named {members others : List (String × Json)}
    (alike : ∀ member ∈ declared, (member? member.1 members).map (Option.map member.2.decode) =
      (member? member.1 others).map (Option.map member.2.decode)) :
    Alike declared (.named members) (.named others)
  | placed {elements others : List Json} (length_eq : elements.length = others.length)
    (alike : ∀ (place : Nat) (member : String × Meaning), declared[place]? = some member →
      elements[place]?.map member.2.decode = others[place]?.map member.2.decode) :
    Alike declared (.placed elements) (.placed others)

/-- A record of which a declared member is repeated or refused by its reader. -/
inductive Refused (declared : List (String × Meaning)) : Record Json → Prop
  | named {member : String × Meaning} {members : List (String × Json)} (known : member ∈ declared)
    (refused : ∀ part, member? member.1 members = some part →
      ∃ value ∈ part, member.2.decode value = none) :
    Refused declared (.named members)
  | placed {place : Nat} {member : String × Meaning} {elements : List Json} {value : Json}
    (known : declared[place]? = some member) (found : elements[place]? = some value)
    (refused : member.2.decode value = none) : Refused declared (.placed elements)

/-- The value that offers the members of a record. -/
def toJson : Record Json → Json
  | .named members => .object members
  | .placed elements => .array elements

@[simp]
theorem ofJson?_toJson (record : Record Json) : ofJson? record.toJson = some record := by
  cases record <;> rfl

variable {declared : List (String × Meaning)}

/-- The elements of two arrays make up parts that are alike, the missing ones included. -/
theorem partsAlike_placed {elements others : List Json}
    (alike : ∀ (place : Nat) (member : String × Meaning), declared[place]? = some member →
      elements[place]?.map member.2.decode = others[place]?.map member.2.decode)
    (length_eq : elements.length = others.length) (short : elements.length ≤ declared.length) :
    PartsAlike declared
      (elements.map some ++ List.replicate (declared.length - elements.length) none)
      (others.map some ++ List.replicate (declared.length - others.length) none) := by
  induction declared generalizing elements others with
  | nil =>
      obtain rfl := List.eq_nil_of_length_eq_zero (Nat.le_zero.mp short)
      obtain rfl := List.eq_nil_of_length_eq_zero length_eq.symm
      exact .nil
  | cons member declared ih =>
      match elements, others, length_eq with
      | [], [], _ =>
          have rest := @ih [] [] (fun _ _ _ => rfl) rfl (Nat.zero_le _)
          exact PartsAlike.missing rest
      | value :: elements, other :: others, length_eq =>
          have head : member.2.decode value = member.2.decode other := by
            simpa using alike 0 member rfl
          have rest := ih (fun place => alike (place + 1)) (Nat.succ.inj length_eq)
            (Nat.le_of_succ_le_succ short)
          simpa using PartsAlike.present head rest

/-- The members of two objects are looked up one by one, and a repeated one ends both runs. -/
theorem partsAlike_named {members others : List (String × Json)}
    (alike : ∀ member ∈ declared, (member? member.1 members).map (Option.map member.2.decode) =
      (member? member.1 others).map (Option.map member.2.decode)) :
    Option.Rel (PartsAlike declared) (declared.mapM fun member => member? member.1 members)
      (declared.mapM fun member => member? member.1 others) := by
  induction declared with
  | nil => exact .some .nil
  | cons member declared ih =>
      obtain ⟨head, tail⟩ := List.forall_mem_cons.mp alike
      have rest := ih tail
      simp only [List.mapM_cons]
      generalize member? member.1 members = first, member? member.1 others = second at head ⊢
      generalize declared.mapM (fun member => member? member.1 members) = parts,
        declared.mapM (fun member => member? member.1 others) = parts' at rest ⊢
      rcases first with _ | _ | value <;> rcases second with _ | _ | other <;> simp at head
      · exact .none
      · cases rest with
        | none => exact .none
        | some rest => exact .some (.missing rest)
      · cases rest with
        | none => exact .none
        | some rest => exact .some (.present head rest)

/-- The declared members of records that are alike are missing or read alike. -/
theorem Alike.fields? {record other : Record Json} (alike : Alike declared record other) :
    Option.Rel (PartsAlike declared) (record.fields? (declared.map Prod.fst))
      (other.fields? (declared.map Prod.fst)) := by
  cases alike with
  | named alike => simpa [Record.fields?, Function.comp_def] using partsAlike_named alike
  | placed length_eq alike =>
      simp only [Record.fields?, List.length_map, ← length_eq]
      split
      case isTrue short => simpa [length_eq] using partsAlike_placed alike length_eq short
      case isFalse => exact .none

theorem partsRefused_named {member : String × Meaning} {members : List (String × Json)}
    {parts : List (Option Json)} (known : member ∈ declared)
    (refused : ∀ part, member? member.1 members = some part →
      ∃ value ∈ part, member.2.decode value = none)
    (parts_eq : declared.mapM (fun member => member? member.1 members) = some parts) :
    PartsRefused declared parts := by
  induction declared generalizing parts with
  | nil => cases known
  | cons first declared ih =>
      simp only [List.mapM_cons, Option.bind_eq_bind, Option.bind_eq_some_iff] at parts_eq
      obtain ⟨part, part_eq, rest, rest_eq, parts_eq⟩ := parts_eq
      obtain rfl : part :: rest = parts := Option.some.inj parts_eq
      cases known with
      | head => exact .inl (refused part part_eq)
      | tail _ known => exact .inr (ih known rest_eq)

theorem partsRefused_placed {place : Nat} {member : String × Meaning} {elements : List Json}
    {value : Json} (known : declared[place]? = some member)
    (found : elements[place]? = some value) (refused : member.2.decode value = none)
    (missing : List (Option Json)) : PartsRefused declared (elements.map some ++ missing) := by
  induction elements generalizing declared place with
  | nil => cases found
  | cons first elements ih =>
      match declared, place with
      | [], _ => cases known
      | _ :: _, 0 =>
          obtain rfl := Option.some.inj known
          obtain rfl := Option.some.inj found
          exact .inl ⟨first, rfl, refused⟩
      | _ :: _, place + 1 => exact .inr (ih known found)

/-- Among the declared members of a refused record there is one that is refused. -/
theorem Refused.fields? {record : Record Json} {parts : List (Option Json)}
    (refused : Refused declared record)
    (parts_eq : record.fields? (declared.map Prod.fst) = some parts) :
    PartsRefused declared parts := by
  cases refused with
  | @named member members known refused =>
      have named_eq : declared.mapM (fun member => member? member.1 members) = some parts := by
        simpa [Record.fields?, Function.comp_def] using parts_eq
      exact partsRefused_named known refused named_eq
  | placed known found refused =>
      simp only [Record.fields?] at parts_eq
      split at parts_eq
      · obtain rfl := Option.some.inj parts_eq
        exact partsRefused_placed known found refused _
      · cases parts_eq

/-- The members that are declared besides a tag are found when the tag is taken away. -/
theorem member?_filter {tag : String} {member : String × Meaning} (known : member ∈ declared)
    (untagged : tag ∉ declared.map Prod.fst) (members : List (String × Json)) :
    member? member.1 (members.filter (·.1 ≠ tag)) = member? member.1 members := by
  have different : member.1 ≠ tag := by
    rintro rfl
    exact untagged (List.mem_map_of_mem known)
  have filter_eq :
      (members.filter (·.1 ≠ tag)).filter (·.1 = member.1) = members.filter (·.1 = member.1) := by
    rw [List.filter_filter]
    refine List.filter_congr fun other _ => ?_
    by_cases same : other.1 = member.1 <;> simp [same, different]
  rw [member?, filter_eq]
  rfl

/-- Records that are alike have the same tag, and the records behind it are alike. -/
theorem Alike.tagged? {record other : Record Json} {tag : String} {readTag : Json → Option String}
    (alike : Alike ((tag, .plain) :: declared) record other)
    (readTag_leaf : ∀ json, readTag json.leaf = readTag json)
    (untagged : tag ∉ declared.map Prod.fst) :
    Option.Rel (fun first second => first.1 = second.1 ∧ Alike declared first.2 second.2)
      (record.tagged? tag readTag) (other.tagged? tag readTag) := by
  cases alike with
  | @named members others alike =>
      obtain ⟨head, tail⟩ := List.forall_mem_cons.mp alike
      have rest : Alike declared (.named (members.filter (·.1 ≠ tag)))
          (.named (others.filter (·.1 ≠ tag))) := by
        refine .named fun member known => ?_
        rw [member?_filter known untagged, member?_filter known untagged, tail member known]
      simp only [Record.tagged?]
      generalize member? tag members = first, member? tag others = second at head ⊢
      rcases first with _ | _ | value <;> rcases second with _ | _ | other <;> simp at head
      · exact .none
      · exact .none
      · simp only [Option.bind_eq_bind, Option.bind_some, read_eq_of_leaf readTag_leaf head]
        cases readTag other with
        | none => exact .none
        | some name => exact .some ⟨rfl, rest⟩
  | @placed elements others length_eq alike =>
      match elements, others, length_eq with
      | [], [], _ => exact .none
      | value :: elements, other :: others, length_eq =>
          have head : Meaning.plain.decode value = Meaning.plain.decode other := by
            simpa using alike 0 (tag, .plain) rfl
          have rest : Alike declared (.placed elements) (.placed others) :=
            .placed (Nat.succ.inj length_eq) fun place => alike (place + 1)
          simp only [Record.tagged?, read_eq_of_leaf readTag_leaf head]
          cases readTag other with
          | none => exact .none
          | some name => exact .some ⟨rfl, rest⟩

/-- If a tagged record is refused, the record behind its tag is. -/
theorem Refused.tagged? {record rest : Record Json} {tag name : String}
    {readTag : Json → Option String} (refused : Refused ((tag, .plain) :: declared) record)
    (untagged : tag ∉ declared.map Prod.fst)
    (found : record.tagged? tag readTag = some (name, rest)) : Refused declared rest := by
  cases refused with
  | @named member members known refused =>
      simp only [Record.tagged?, Option.bind_eq_bind, Option.bind_eq_some_iff] at found
      obtain ⟨part, part_eq, value, rfl, tagName, -, found⟩ := found
      cases found
      cases known with
      | head =>
          obtain ⟨_, _, impossible⟩ := refused _ part_eq
          cases impossible
      | tail _ known =>
          exact .named known (by rwa [member?_filter known untagged])
  | @placed place member elements value known isPlaced refused =>
      match elements, place with
      | [], _ => cases isPlaced
      | _ :: _, 0 =>
          obtain rfl := Option.some.inj known
          cases refused
      | _ :: _, place + 1 =>
          simp only [Record.tagged?, Option.bind_eq_bind, Option.bind_eq_some_iff] at found
          obtain ⟨tagName, -, found⟩ := found
          cases found
          exact .placed known isPlaced refused

end Record

end Json
end Tabulate
