import Tabulate.Schema

/-!
# Checks across fields

The fields of a derivation must have distinct names, none of them the star, and at most one time
attribute of each kind.
-/

namespace Tabulate

/-- Whether the fields hold a row-time attribute, if they go together. -/
def Field.checkAll (fields : List Field) : Except Fault Bool := do
  let names := fields.map Field.name
  if "*" ∈ names then
    throw .starField
  Names.checkDistinct names
  let rowtimes := fields.filter Field.isRowtime
  if rowtimes.length > 1 then
    throw (.rowtimesRepeated rowtimes)
  let proctimes := fields.filter Field.isProctime
  if proctimes.length > 1 then
    throw (.proctimesRepeated proctimes)
  return rowtimes.length = 1

end Tabulate
