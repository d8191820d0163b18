import SalonBooking.Schema.Basic

/-!
Schema changes as PostgreSQL statements. A table is created with one line per
column (name, type, default, `NOT NULL` for required and key columns) followed by
its constraints: the primary key, then the constraints given with the table, then
those its columns imply (uniqueness, then the foreign key), column by column. The
lines are separated by a comma, a line break and a tab. Text literals are quoted
with single quotes, doubled inside.
-/

namespace SalonBooking.Schema

def ColumnType.sql : ColumnType → String
  | .uuid => "UUID"
  | .varchar n => "VARCHAR(" ++ toString n ++ ")"
  | .text => "TEXT"
  | .integer => "INTEGER"
  | .boolean => "BOOLEAN"
  | .date => "DATE"
  | .time => "TIME WITHOUT TIME ZONE"
  | .timestamp => "TIMESTAMP WITHOUT TIME ZONE"
  | .jsonb => "JSONB"

/-- A text literal. -/
def quoteLiteral (s : String) : String := "'" ++ s.replace "'" "''" ++ "'"

def ServerDefault.sql : ServerDefault → String
  | .literal s => quoteLiteral s
  | .now => "now()"
  | .true => "true"
  | .false => "false"

/-- A column's line in a table definition. -/
def Column.sql (c : Column) : String :=
  c.name ++ " " ++ c.type.sql ++
    (match c.default with
      | some d => " DEFAULT " ++ d.sql
      | none => "") ++
    (if !c.nullable || c.primaryKey then " NOT NULL" else "")

/-- A foreign key from `column`. -/
def Reference.sql (column : String) (r : Reference) : String :=
  "FOREIGN KEY(" ++ column ++ ") REFERENCES " ++ r.table ++ " (" ++ r.column ++ ")" ++
    (match r.onDelete with
      | some action => " ON DELETE " ++ action
      | none => "")

def TableConstraint.sql : TableConstraint → String
  | .check name condition => "CONSTRAINT " ++ name ++ " CHECK (" ++ condition ++ ")"
  | .unique name columns => "CONSTRAINT " ++ name ++ " UNIQUE (" ++ ", ".intercalate columns ++ ")"

/-- The constraints a column implies. -/
def Column.constraintLines (c : Column) : List String :=
  (if c.unique then ["UNIQUE (" ++ c.name ++ ")"] else []) ++ (c.references.map (Reference.sql c.name)).toList

/-- A table's constraint lines, in the order they are written. -/
def Table.constraintLines (t : Table) : List String :=
  let key := (t.columns.filter (·.primaryKey)).map (·.name)
  (if key.isEmpty then [] else ["PRIMARY KEY (" ++ ", ".intercalate key ++ ")"]) ++
    t.constraints.map TableConstraint.sql ++ (t.columns.map Column.constraintLines).flatten

/-- The statement that creates a table. -/
def Table.sql (t : Table) : String :=
  "CREATE TABLE " ++ t.name ++ " (\n\t" ++
    ", \n\t".intercalate (t.columns.map Column.sql ++ t.constraintLines) ++ "\n)"

/-- The statement that creates an index. -/
def Index.sql (i : Index) : String :=
  "CREATE INDEX " ++ i.name ++ " ON " ++ i.table ++ " (" ++ ", ".intercalate i.columns ++ ")"

/-- The statement of a change. -/
def Change.sql : Change → String
  | .createTable t => t.sql
  | .createIndex i => i.sql
  | .dropTable name => "DROP TABLE " ++ name
  | .verbatim s => s

end SalonBooking.Schema
