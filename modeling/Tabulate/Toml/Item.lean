/-!
# Items of TOML

A TOML document is a table of items.  Every table remembers how it came about, for this decides
which later lines may still add to it:

* a key with dots may add to tables that only such keys have opened;
* a header may open a table that so far was only passed through by other headers;
* a value in braces is complete.
-/

namespace Tabulate
namespace Toml

/-- How a table came about. -/
inductive Standing where
  /-- It is the document, or has a header of its own. -/
  | headed
  /-- The headers of other tables pass through it. -/
  | implied
  /-- Keys with dots pass through it. -/
  | dotted
  /-- It is written in braces. -/
  | closed
  deriving DecidableEq

/-- What a key stands for. -/
inductive Item where
  | text (content : String)
  | integer (value : Int)
  | boolean (truth : Bool)
  /-- A number with a fraction or an exponent, an infinity, or no number. -/
  | float (literal : List Char)
  /-- A date, a time of day, or both. -/
  | moment (literal : List Char)
  | array (elements : List Item)
  | table (standing : Standing) (entries : List (String × Item))
  /-- A list of tables under one header: the entries of the last one, and those before it. -/
  | tables (last : List (String × Item)) (earlier : List (List (String × Item)))

/-- The keys of a table with what they stand for. -/
abbrev Entries := List (String × Item)

namespace Entries

/-- What a key stands for. -/
def find? (key : String) (entries : Entries) : Option Item :=
  entries.lookup key

/-- Let a key stand for an item. -/
def set (key : String) (item : Item) : Entries → Entries
  | [] => [(key, item)]
  | entry :: entries =>
    if entry.1 = key then (key, item) :: entries else entry :: set key item entries

/-- Change the table at the end of a path.  Tables that are missing on the way are opened with the
given standing, which tells whether the path comes from a header or from a key with dots.  The
change learns how its table came about. -/
def alter (opened : Standing) (change : Standing → Entries → Option Entries) :
    List String → Standing → Entries → Option Entries
  | [], standing, entries => change standing entries
  | key :: path, _, entries =>
    match find? key entries with
    | none => do
      let inner ← alter opened change path opened []
      some (set key (.table opened inner) entries)
    | some (.table .closed _) => none
    | some (.table standing inner) =>
      if opened = .dotted ∧ standing = .headed then none
      else do
        let inner ← alter opened change path standing inner
        some (set key (.table standing inner) entries)
    | some (.tables last earlier) => do
      let last ← alter opened change path .headed last
      some (set key (.tables last earlier) entries)
    | some _ => none

/-- Give a new key an item.  A key with dots may add only to a table that such keys have opened,
and a key without dots may not. -/
def assign (path : List String) (key : String) (item : Item) (entries : Entries) :
    Option Entries :=
  let change (standing : Standing) (inner : Entries) : Option Entries :=
    if (standing = .dotted) ≠ (path ≠ []) then none
    else if (find? key inner).isSome then none
    else some (set key item inner)
  alter .dotted change path .headed entries

/-- Open a table under a header. -/
def openTable (path : List String) (key : String) (entries : Entries) : Option Entries :=
  let change (_ : Standing) (inner : Entries) : Option Entries :=
    match find? key inner with
    | none => some (set key (.table .headed []) inner)
    | some (.table .implied entries) => some (set key (.table .headed entries) inner)
    | some _ => none
  alter .implied change path .headed entries

/-- Open a further table in a list of tables under a header. -/
def openRow (path : List String) (key : String) (entries : Entries) : Option Entries :=
  let change (_ : Standing) (inner : Entries) : Option Entries :=
    match find? key inner with
    | none => some (set key (.tables [] []) inner)
    | some (.tables last earlier) => some (set key (.tables [] (last :: earlier)) inner)
    | some _ => none
  alter .implied change path .headed entries

/-- Give a new key an item in the table under the header that was read last. -/
def assignIn (header : List String) (path : List String) (key : String) (item : Item)
    (entries : Entries) : Option Entries :=
  alter .implied (fun _ inner => assign path key item inner) header .headed entries

end Entries
end Toml
end Tabulate
