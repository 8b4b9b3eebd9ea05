import Tabulate.Proofs.Rebuilding

/-!
# Columns of schemas

The table of a schema is filled column by column, each behind those before it, so the columns stand
in the order of the fields.  A table finds the first column of a name.  However a schema was
obtained, its names are distinct, so the first column of a name is the only one, and the table
finds for every name the type of the field that has it.
-/

namespace Tabulate

namespace Table

variable {table : Table} {name : String} {type : ColumnType}

@[simp]
theorem columns_push (table : Table) (column : Column) :
    (table.push column).columns = table.columns ++ [column] := rfl

/-- Columns that are pushed one after the other stand behind the others, in their order. -/
theorem columns_foldl_push (table : Table) (columns : List Column) :
    (columns.foldl push table).columns = table.columns ++ columns := by
  induction columns generalizing table with
  | nil => exact (List.append_nil _).symm
  | cons column columns ih =>
      rw [List.foldl_cons, ih, columns_push, List.append_assoc, List.singleton_append]

theorem typeOf?_eq_none_iff : table.typeOf? name = none ↔ name ∉ table.names := by
  simp [typeOf?, names, List.find?_eq_none]

theorem mem_columns_of_typeOf? (found : table.typeOf? name = some type) :
    { name, type } ∈ table.columns := by
  obtain ⟨column, first, rfl⟩ := Option.map_eq_some_iff.mp found
  have name_eq : column.name = name := by simpa using List.find?_some first
  subst name_eq
  exact List.mem_of_find?_eq_some first

/-- In a table of distinct names, every column is found by its name. -/
theorem typeOf?_eq_some_iff (distinct : table.names.Nodup) :
    table.typeOf? name = some type ↔ { name, type } ∈ table.columns := by
  refine ⟨mem_columns_of_typeOf?, fun member => ?_⟩
  cases found : table.typeOf? name with
  | none => exact absurd (List.mem_map_of_mem member) (typeOf?_eq_none_iff.mp found)
  | some other =>
      -- The first column of the name could be another one, if names were repeated.
      have same : ({ name, type := other } : Column) = { name, type } :=
        List.inj_on_of_nodup_map distinct (mem_columns_of_typeOf? found) member rfl
      rw [(Column.mk.inj same).2]

end Table

namespace Schema

/-- What the table of a schema shows of its fields. -/
structure Tabled (schema : Schema) (table : Table) : Prop where
  /-- It is filled with the columns of the fields, one after the other. -/
  filled : table = schema.fields.foldl (fun table field => table.push field.column) {}
  /-- It has as many columns as the schema has fields. -/
  width_eq : table.width = schema.size
  /-- Each field has a column of its name and its type, at its own place. -/
  column_of_field : ∀ (place : Nat) (field : Field), schema.fields[place]? = some field →
    table.columns[place]? = some { name := field.name, type := field.type }
  /-- A type is found exactly for the name of a field, which is the only one of this name. -/
  typeOf?_eq_some_iff : ∀ name type, table.typeOf? name = some type ↔
    ∃ field ∈ schema.fields, field.name = name ∧ field.type = type ∧
      ∀ other ∈ schema.fields, other.name = name → other = field
  /-- No type is found for any other name. -/
  typeOf?_eq_none_iff : ∀ name, table.typeOf? name = none ↔ name ∉ schema.names
  /-- Looking a name up finds the type at its place. -/
  typeOf?_of_place : ∀ (place : Nat) (name : String), schema.names[place]? = some name →
    table.typeOf? name = schema.types[place]?

variable {schema : Schema}

theorem filled_table (schema : Schema) :
    schema.table = schema.fields.foldl (fun table field => table.push field.column) {} := by
  have columns_eq := Table.columns_foldl_push {} (schema.fields.map Field.column)
  rw [List.foldl_map] at columns_eq
  exact congrArg Table.mk columns_eq.symm

theorem typeOf?_table_eq_some_iff (distinct : schema.names.Nodup) {name : String}
    {type : ColumnType} :
    schema.table.typeOf? name = some type ↔
      ∃ field ∈ schema.fields, field.name = name ∧ field.type = type ∧
        ∀ other ∈ schema.fields, other.name = name → other = field := by
  rw [Table.typeOf?_eq_some_iff (schema.names_table ▸ distinct), Schema.table, List.mem_map]
  refine exists_congr fun field => and_congr_right fun member => ?_
  constructor
  · intro column_eq
    obtain ⟨rfl, rfl⟩ := Column.mk.inj column_eq
    exact ⟨rfl, rfl, fun other otherMember => List.inj_on_of_nodup_map distinct otherMember member⟩
  · rintro ⟨rfl, rfl, -⟩
    rfl

/-- Every schema that was obtained shows all its fields in its table, each of them once. -/
theorem tabled_of_obtained (obtained : schema.Obtained) : schema.Tabled schema.table := by
  obtain ⟨compatible, -⟩ := obtained_iff.mp obtained
  have distinct : schema.names.Nodup := compatible.names_nodup
  constructor
  case filled => exact schema.filled_table
  case width_eq => exact List.length_map _
  case column_of_field =>
    intro place field found
    rw [Schema.table, List.getElem?_map, found]
    rfl
  case typeOf?_eq_some_iff =>
    intro name type
    exact typeOf?_table_eq_some_iff distinct
  case typeOf?_eq_none_iff =>
    intro name
    rw [Table.typeOf?_eq_none_iff, names_table]
  case typeOf?_of_place =>
    intro place name found
    rw [names, List.getElem?_map, Option.map_eq_some_iff] at found
    obtain ⟨field, found, rfl⟩ := found
    rw [types, List.getElem?_map, found, Option.map_some,
      Table.typeOf?_eq_some_iff (schema.names_table ▸ distinct)]
    exact List.mem_map_of_mem (List.mem_of_getElem? found)

/-- The columns of a part and of a row-time attribute that replaces another. -/
theorem tabled_of_obtained_pair :
    ∃ schema,
      Settings.derive {} .pair [.rowtime (.reference "at"), .reference "name"] = .ok schema ∧
        schema.Obtained ∧ schema.Tabled schema.table ∧
        schema.table.typeOf? "name" = some .varchar ∧ schema.table.typeOf? "f1" = none := by
  obtain ⟨schema, derived, found, missing⟩ : ∃ schema,
      Settings.derive {} .pair [.rowtime (.reference "at"), .reference "name"] = .ok schema ∧
        schema.table.typeOf? "name" = some .varchar ∧ schema.table.typeOf? "f1" = none :=
    ⟨_, rfl, rfl, rfl⟩
  have obtained : schema.Obtained := .derive derived
  exact ⟨schema, derived, obtained, tabled_of_obtained obtained, found, missing⟩

end Schema
end Tabulate
