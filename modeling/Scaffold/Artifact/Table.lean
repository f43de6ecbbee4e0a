import Scaffold.Artifact.Names
import Scaffold.Schema.Default
/-!
# Artifact.Table — the table of an entity

The identity column comes first, then a column for each data field in declared order, under the field's own name.  No
two columns may have the same name and none may be empty.  A field that asks for it gets an index, named after table and
field.
-/
namespace Scaffold

inductive ColumnType where
  | integer
  | varchar (length : Nat)
  | boolean
  | date
  | text
deriving DecidableEq, Repr

namespace ColumnType

def sqlName : ColumnType → String
  | .integer => "INTEGER"
  | .varchar n => s!"VARCHAR({n})"
  | .boolean => "BOOLEAN"
  | .date => "DATE"
  | .text => "TEXT"

end ColumnType

/-- **The default of a column**: an expression that stands as it is, or a text. -/
inductive ColumnDefault where
  | expression (w : Wording)
  | literal (w : Wording)
deriving DecidableEq, Repr

namespace ColumnDefault

def content : ColumnDefault → Wording
  | .expression w => w
  | .literal w => w

/-- Numbers and truth values are expressions, everything else is a text. -/
def ofValue : DefaultValue → ColumnDefault
  | .text w => .literal w
  | v => .expression v.written

end ColumnDefault

structure Column where
  name : String
  type : ColumnType
  nullable : Bool
  primaryKey : Bool := false
  default? : Option ColumnDefault := none
deriving DecidableEq, Repr

structure Index where
  name : String
  column : String
deriving DecidableEq, Repr

/-- **A table with its indexes**, which are in the order of the fields that asked for them. -/
structure Table where
  name : String
  columns : List Column
  indexes : List Index
deriving DecidableEq, Repr

inductive TableError where
  | badDefault (e : DefaultError)
  | blankColumn
  | duplicateColumn (column table : String)
  | longIdentifier (name : String)
deriving DecidableEq, Repr

namespace Table

/-- The most characters of an index name. -/
def maxIdentifier : Nat := 63

end Table

namespace TableError

def message : TableError → String
  | .badDefault e => e.message
  | .blankColumn =>
    "Column must be constructed with a non-blank name or assign a non-blank .name before adding to a Table."
  | .duplicateColumn column table => s!"A column with name '{column}' is already present in table '{table}'."
  | .longIdentifier name => s!"Identifier '{name}' exceeds maximum length of {Table.maxIdentifier} characters"

end TableError

namespace FieldType

def columnType : FieldType → ColumnType
  | .string | .email => .varchar Default.maxLength
  | .number => .integer
  | .boolean => .boolean
  | .date => .date
  | .text => .text

end FieldType

namespace Field

def column (f : Field) : Except DefaultError Column :=
  f.coerced.map (fun value =>
    { name := f.name.shown, type := f.type.columnType, nullable := !f.required,
      default? := value.map ColumnDefault.ofValue })

end Field

namespace Table

def identityColumn : Column := { name := Schema.identityName, type := .integer, nullable := false, primaryKey := true }

/-- The first fault among columns that are added to those there. -/
def fault? (table : String) (present : List String) : List Column → Option TableError
  | [] => none
  | c :: rest =>
    if c.name.isEmpty then some .blankColumn
    else if c.name ∈ present then some (.duplicateColumn c.name table)
    else fault? table (c.name :: present) rest

def indexName (table : String) (f : Field) : String :=
  "ix_" ++ table ++ "_" ++ f.name.lower.shown

end Table

namespace Schema

def table (s : Schema) : Except TableError Table :=
  match s.dataFields.mapM Field.column with
  | .error e => .error (.badDefault e)
  | .ok columns =>
    let name := s.tableName
    match Table.fault? name [] (Table.identityColumn :: columns) with
    | some e => .error e
    | none =>
      .ok { name := name, columns := Table.identityColumn :: columns,
            indexes := (s.dataFields.filter Field.indexed).map (fun f => ⟨Table.indexName name f, f.name.shown⟩) }

end Schema

namespace Table

def sortedIndexes (t : Table) : List Index := t.indexes.mergeSort (fun a b => !decide (b.name < a.name))

end Table
end Scaffold
