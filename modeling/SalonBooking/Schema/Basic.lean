/-!
The relational schema the service stores its rows in: tables of typed columns with
their defaults and keys, table constraints, indexes, and the revisions that create
and remove them. A revision is a list of schema changes in the order they run.
-/

namespace SalonBooking.Schema

/-- The SQL type of a column. -/
inductive ColumnType where
  | uuid
  | varchar (length : Nat)
  | text
  | integer
  | boolean
  | date
  | time
  | timestamp
  | jsonb
  deriving DecidableEq, Repr

/-- A value the database fills in when a row leaves a column out. -/
inductive ServerDefault where
  | literal (text : String)
  | now
  | true
  | false
  deriving DecidableEq, Repr

/-- A foreign key: the referenced table and column, and what deleting the referenced
row does, if anything is said. -/
structure Reference where
  table : String
  column : String := "id"
  onDelete : Option String := none
  deriving Repr

/-- A column. -/
structure Column where
  name : String
  type : ColumnType
  nullable : Bool := true
  primaryKey : Bool := false
  unique : Bool := false
  references : Option Reference := none
  default : Option ServerDefault := none
  deriving Repr

/-- A constraint given with a table rather than implied by a column. -/
inductive TableConstraint where
  | check (name : String) (condition : String)
  | unique (name : String) (columns : List String)
  deriving Repr

/-- A table. -/
structure Table where
  name : String
  columns : List Column
  constraints : List TableConstraint := []
  deriving Repr

/-- An index on some columns of a table. -/
structure Index where
  name : String
  table : String
  columns : List String
  deriving Repr

/-- A change to the schema. -/
inductive Change where
  | createTable (t : Table)
  | createIndex (i : Index)
  | dropTable (name : String)
  /-- A statement given as it is written. -/
  | verbatim (sql : String)
  deriving Repr

/-- A revision: its id, the revision it follows, and the changes that apply it and
undo it. -/
structure Revision where
  id : String
  follows : Option String
  upgrade : List Change
  downgrade : List Change

end SalonBooking.Schema
