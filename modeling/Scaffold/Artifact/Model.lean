import Scaffold.Artifact.Names
import Scaffold.Schema.Mapping
import Scaffold.Text.Quoted
/-!
# Artifact.Model — the model class

One class maps the table: the identity first, then an attribute for each data field in declared order.  An attribute
that is not named like its column names the column first.  The import line holds the column types that the class uses,
each once, in alphabetical order without regard to case.
-/
namespace Scaffold

/-- **A default as the model states it**: wrapped as an expression, or as a text. -/
inductive ModelDefault where
  | expression (w : Wording)
  | literal (w : Wording)
deriving DecidableEq, Repr

namespace ModelDefault

def ofValue : DefaultValue → ModelDefault
  | .text w => .literal w
  | v => .expression v.written

def argument : ModelDefault → String
  | .expression w => "text(\"" ++ w.shown ++ "\")"
  | .literal w => quoted w

end ModelDefault

structure MappedColumn where
  attr : String
  column? : Option Wording
  binding : Binding
  optional : Bool
  storage : Storage
  default? : Option ModelDefault
  index : Bool
deriving DecidableEq, Repr

namespace MappedColumn

def annotation (c : MappedColumn) : String :=
  if c.optional then "Optional[" ++ c.binding.name ++ "]" else c.binding.name

def arguments (c : MappedColumn) : List String :=
  (c.column?.map quoted).toList ++ [c.storage.expression] ++
    [if c.optional then "nullable=True" else "nullable=False"] ++
    (c.default?.map (fun d => "server_default=" ++ d.argument)).toList ++
    (if c.index then ["index=True"] else [])

def line (c : MappedColumn) : String :=
  "    " ++ c.attr ++ ": Mapped[" ++ c.annotation ++ "] = mapped_column(" ++ ", ".intercalate c.arguments ++ ")"

end MappedColumn

namespace Field

def mappedColumn (f : Field) (attr : String) : Except DefaultError MappedColumn :=
  f.coerced.map (fun value =>
    { attr := attr,
      column? := if attr = f.name then none else some f.name,
      binding := f.type.mapping.binding,
      optional := !f.required,
      storage := f.type.mapping.storage,
      default? := value.map ModelDefault.ofValue,
      index := f.indexed })

def hasExpressionDefault (f : Field) : Bool := f.default?.isSome && (f.type = .number || f.type = .boolean)

end Field

namespace Schema

def usesDate (s : Schema) : Bool := s.dataFields.any (fun f => f.type = .date)

/-- The names that the import line holds, in no order. -/
def modelNames (s : Schema) : List String :=
  (["Identity", "Integer"] ++ s.dataFields.map (fun f => f.type.mapping.storage.typeName) ++
    (if s.dataFields.any Field.hasExpressionDefault then ["text"] else [])).eraseDups

/-- Alphabetical order without regard to case; names that differ in case alone are in their own order. -/
def nameBefore (a b : String) : Bool :=
  if a.toLower = b.toLower then !decide (b < a) else decide (a.toLower < b.toLower)

def modelImports (s : Schema) : List String := s.modelNames.mergeSort nameBefore

def modelHead (s : Schema) : List String :=
  (if s.usesDate then ["from datetime import date"] else []) ++
  ["from typing import Optional",
   "",
   "from sqlalchemy import " ++ ", ".intercalate s.modelImports,
   "from sqlalchemy.orm import DeclarativeBase, Mapped, mapped_column",
   "",
   "",
   "class Base(DeclarativeBase):",
   "    pass",
   "",
   "",
   "class " ++ s.className ++ "(Base):",
   "    __tablename__ = \"" ++ s.tableName ++ "\"",
   "",
   "    " ++ identityName ++ ": Mapped[int] = mapped_column(Integer, Identity(always=True), primary_key=True)"]

def entryLine (f : Field) (attr : String) : String :=
  "            " ++ quoted f.name ++ ": self." ++ attr ++ ","

def modelTail (s : Schema) : List String :=
  ["",
   "    def to_dict(self) -> dict:",
   "        return \x7b",
   "            \"" ++ identityName ++ "\": self." ++ identityName ++ ","] ++
  s.attributes.map (fun p => entryLine p.1 p.2) ++
  ["        \x7d"]

def mappedColumns (s : Schema) : Except DefaultError (List MappedColumn) :=
  s.attributes.mapM (fun p => p.1.mappedColumn p.2)

def modelLines (s : Schema) : Except DefaultError (List String) :=
  s.mappedColumns.map (fun columns => s.modelHead ++ columns.map MappedColumn.line ++ s.modelTail)

def model (s : Schema) : Except DefaultError String := s.modelLines.map (fun l => "\n".intercalate l ++ "\n")

end Schema
end Scaffold
