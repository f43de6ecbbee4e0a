import Scaffold.Artifact.Table
import Scaffold.Text.Quoted
/-!
# Artifact.Script — the data-definition script

One statement creates the table and one each index, in the order of the index names.  A name that a statement could take
for something else is quoted.  Each statement is laid out line by line: white space at a line's end goes, and a leading
tab becomes four spaces.
-/
namespace Scaffold
namespace Script

open Text

def reservedWords : List String :=
  ["all", "analyse", "analyze", "and", "any", "array", "as", "asc", "asymmetric", "authorization", "between", "binary",
   "both", "case", "cast", "check", "collate", "column", "constraint", "create", "cross", "current_catalog",
   "current_date", "current_role", "current_schema", "current_time", "current_timestamp", "current_user", "default",
   "deferrable", "desc", "distinct", "do", "else", "end", "except", "false", "fetch", "for", "foreign", "freeze",
   "from", "full", "grant", "group", "having", "ilike", "in", "initially", "inner", "intersect", "into", "is", "isnull",
   "join", "leading", "left", "like", "limit", "localtime", "localtimestamp", "natural", "new", "not", "notnull",
   "null", "of", "off", "offset", "old", "on", "only", "or", "order", "outer", "over", "overlaps", "placing", "primary",
   "references", "returning", "right", "select", "session_user", "similar", "some", "symmetric", "table", "then", "to",
   "trailing", "true", "union", "unique", "user", "using", "variadic", "verbose", "when", "where", "window", "with"]

/-- The characters of a name that needs no quotes: ASCII letters and the two small ones that fold to them,
digits, the underscore and the dollar sign. -/
def isPlainChar (c : Char) : Bool :=
  isUpperAscii c || isLowerAscii c || isDigitAscii c || c = '_' || c = '$' || c = 'ı' || c = 'ſ'

/-- **A name that has to be quoted**: empty, reserved, beginning with a digit or a dollar sign, not in lower case, or
with other characters than plain ones, a final line feed aside. -/
def needsQuotes (name : List Char) : Bool :=
  match name with
  | [] => true
  | c :: _ =>
    reservedWords.contains (String.ofList (lower name)) || isDigitAscii c || c = '$' || lower name != name ||
      (dropFinalNewline name).isEmpty || !(dropFinalNewline name).all isPlainChar

def identifier (name : String) : String :=
  if needsQuotes name.toList then "\"" ++ String.ofList (doubled '"' name.toList) ++ "\"" else name

def defaultText : ColumnDefault → String
  | .expression w => w.shown
  | .literal w => String.ofList (sqlLiteral w.shown.toList)

def column (c : Column) : String :=
  if c.primaryKey then identifier c.name ++ " " ++ c.type.sqlName ++ " GENERATED ALWAYS AS IDENTITY"
  else
    identifier c.name ++ " " ++ c.type.sqlName ++
      (match c.default? with
      | none => ""
      | some d => " DEFAULT " ++ defaultText d) ++
      (if c.nullable then "" else " NOT NULL")

def primaryKey (t : Table) : String :=
  "PRIMARY KEY (" ++ ", ".intercalate ((t.columns.filter Column.primaryKey).map (fun c => identifier c.name)) ++ ")"

def createTable (t : Table) : String :=
  "\nCREATE TABLE " ++ identifier t.name ++ " (\n\t" ++
    ", \n\t".intercalate (t.columns.map column ++ [primaryKey t]) ++ "\n)\n\n"

def createIndex (table : String) (i : Index) : Except TableError String :=
  if Table.maxIdentifier < i.name.length then .error (.longIdentifier i.name)
  else
    .ok ("CREATE INDEX " ++ identifier i.name ++ " ON " ++ identifier table ++ " (" ++ identifier i.column ++ ")")

/-- A line of a statement without white space at its end, a leading tab as four spaces. -/
def layLine (l : List Char) : List Char :=
  match trimRight l with
  | '\t' :: rest => ' ' :: ' ' :: ' ' :: ' ' :: rest
  | l => l

/-- **A statement laid out line by line**, with the semicolon that ends it. -/
def lay (statement : String) : String :=
  String.ofList (join ['\n'] ((lines (trim statement.toList)).map layLine) ++ [';'])

/-- **The statements of a table**: the table, then each index by name. -/
def statements (t : Table) : Except TableError (List String) :=
  (t.sortedIndexes.mapM (createIndex t.name)).map (fun l => (createTable t :: l).map lay)

end Script

namespace Schema

def script (s : Schema) : Except TableError String := do
  let t ← s.table
  let l ← Script.statements t
  .ok ("\n\n".intercalate (("-- " ++ s.entityName.shown ++ " schema") :: l) ++ "\n")

end Schema
end Scaffold
