/-!
# Types of columns

The logical types that a table column can have.  A timestamp also carries a role: it may be an
ordinary value, or the row-time or proc-time attribute of its table.
-/

namespace Tabulate

/-- The part that a timestamp plays in a table. -/
inductive TimeRole where
  /-- An ordinary value. -/
  | regular
  /-- The time at which the event of a row happened. -/
  | rowtime
  /-- The time at which a row is processed. -/
  | proctime
  deriving DecidableEq

/-- The logical type of a column. -/
inductive ColumnType where
  | boolean
  | tinyInt
  | smallInt
  | integer
  /-- A 64-bit integer, which may also hold milliseconds since the epoch. -/
  | bigInt
  | float
  | double
  | decimal (precision scale : UInt8)
  | varchar
  | binary
  | date
  /-- A time of day. -/
  | time (precision : UInt8)
  | timestamp (precision : UInt8) (role : TimeRole)
  /-- A value of a named type without a structure of its own. -/
  | raw (typeName : String)
  deriving DecidableEq

/-- The mark that a role leaves behind a displayed timestamp. -/
def TimeRole.display : TimeRole → String
  | regular => ""
  | rowtime => " *ROWTIME*"
  | proctime => " *PROCTIME*"

namespace ColumnType

def display : ColumnType → String
  | boolean => "BOOLEAN"
  | tinyInt => "TINYINT"
  | smallInt => "SMALLINT"
  | integer => "INT"
  | bigInt => "BIGINT"
  | float => "FLOAT"
  | double => "DOUBLE"
  | decimal precision scale => "DECIMAL(" ++ toString precision ++ ", " ++ toString scale ++ ")"
  | varchar => "STRING"
  | binary => "BYTES"
  | date => "DATE"
  | time precision => "TIME(" ++ toString precision ++ ")"
  | timestamp precision role => "TIMESTAMP(" ++ toString precision ++ ")" ++ role.display
  | raw typeName => "RAW('" ++ typeName ++ "')"

/-- The role of a timestamp. -/
def role? : ColumnType → Option TimeRole
  | timestamp _ role => some role
  | _ => none

/-- Whether a type is tagged as a row-time attribute. -/
def isRowtime (type : ColumnType) : Bool :=
  type.role? = some .rowtime

/-- Whether a type is tagged as a proc-time attribute. -/
def isProctime (type : ColumnType) : Bool :=
  type.role? = some .proctime

/-- Whether a row-time attribute may take the place of a column of this type. -/
def canBeRowtime : ColumnType → Bool
  | bigInt => true
  | time _ => true
  | timestamp _ _ => true
  | _ => false

end ColumnType
end Tabulate
