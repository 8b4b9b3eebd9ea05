/-!
# Fresh and repeated names

`fresh` finds the name of a lone value beside names that are already taken.  `repeated` lists the
names that occur more than once.
-/

namespace Tabulate
namespace Names

/-- A base name with a number behind it. -/
def numbered (base : String) (number : Nat) : String :=
  base ++ "_" ++ toString number

/-- The base name if it is free, and otherwise the base name with the least number that is free.
Since the base name itself is taken then, at most `taken.length - 1` of the numbered names are. -/
def fresh (base : String) (taken : List String) : String :=
  if base ∈ taken then
    (((List.range taken.length).map (numbered base)).find? (· ∉ taken)).getD base
  else
    base

/-- What a pass over some names has found so far. -/
structure Tally where
  /-- The names that have occurred. -/
  seen : List String := []
  /-- The names that have been reported. -/
  reported : List String := []
  /-- The reported names, in the order of the reports. -/
  listed : List String := []

/-- A name that has occurred before is reported, unless it has been reported already. -/
def Tally.add (tally : Tally) (name : String) : Tally :=
  if name ∉ tally.seen then
    { tally with seen := name :: tally.seen }
  else if name ∉ tally.reported then
    { tally with reported := name :: tally.reported, listed := tally.listed ++ [name] }
  else
    tally

/-- The names that occur more than once, each listed once, in the order of their second
occurrences. -/
def repeated (names : List String) : List String :=
  (names.foldl Tally.add {}).listed

/-- Names joined for a reader. -/
def commaSeparated (names : List String) : String :=
  ", ".intercalate names

end Names
end Tabulate
