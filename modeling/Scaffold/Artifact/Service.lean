import Scaffold.Artifact.Names
import Scaffold.Schema.Mapping
import Scaffold.Text.Quoted
/-!
# Artifact.Service — the service module

The service has a model of its requests for each operation that takes data, a model of its answers, and an endpoint for
each enabled operation, two for reading.  The module is put together from blocks of lines, and an operation owns its
blocks: one that is off leaves them out and changes nothing else.
-/
namespace Scaffold

inductive RequestType where
  | str
  | email
  | int
  | bool
  | date
deriving DecidableEq, Repr

namespace RequestType

def name : RequestType → String
  | .str => "str"
  | .email => "EmailStr"
  | .int => "int"
  | .bool => "bool"
  | .date => "date"

end RequestType

namespace Rule

def requestType : Rule → RequestType
  | .maxLength | .none => .str
  | .email => .email
  | .integer => .int
  | .boolean => .bool
  | .isoDate => .date

def constraints : Rule → List String
  | .maxLength => [s!"max_length={Default.maxLength}"]
  | _ => []

end Rule

structure RequestField where
  attr : String
  type : RequestType
  optional : Bool
  constraints : List String
  alias? : Option Wording
deriving DecidableEq, Repr

namespace RequestField

def arguments (r : RequestField) : List String :=
  (if r.optional then ["default=None"] else []) ++ r.constraints ++
    (r.alias?.map (fun name => "alias=" ++ quoted name)).toList

def annotation (r : RequestField) : String :=
  if r.optional then "Optional[" ++ r.type.name ++ "]" else r.type.name

/-- What follows the annotation: a field with arguments if there are any besides the default, which else stands
alone. -/
def initialiser (r : RequestField) : String :=
  if r.constraints.isEmpty && r.alias?.isNone then
    if r.optional then " = None" else ""
  else " = Field(" ++ ", ".intercalate r.arguments ++ ")"

def line (r : RequestField) : String := "    " ++ r.attr ++ ": " ++ r.annotation ++ r.initialiser

end RequestField

structure AnswerField where
  attr : String
  binding : Binding
  optional : Bool
  alias? : Option Wording
deriving DecidableEq, Repr

namespace AnswerField

def line (a : AnswerField) : String :=
  "    " ++ a.attr ++ ": " ++
    (if a.optional then "Optional[" ++ a.binding.name ++ "]" else a.binding.name) ++
    (match a.alias? with
    | none => ""
    | some name => " = Field(serialization_alias=" ++ quoted name ++ ")")

end AnswerField

namespace Field

/-- The field's name where its attribute is another. -/
def alias? (f : Field) (attr : String) : Option Wording := if attr = f.name then none else some f.name

/-- **The attribute of a request model**; in an update every one is optional. -/
def requestField (f : Field) (allOptional : Bool) (attr : String) : RequestField where
  attr := attr
  type := f.type.mapping.rule.requestType
  optional := allOptional || !f.required
  constraints := f.type.mapping.rule.constraints
  alias? := f.alias? attr

def answerField (f : Field) (attr : String) : AnswerField where
  attr := attr
  binding := f.type.mapping.binding
  optional := !f.required
  alias? := f.alias? attr

end Field

inductive Endpoint where
  | create
  | list
  | get
  | update
  | delete
deriving DecidableEq, Repr

namespace Endpoint

def method : Endpoint → String
  | .create => "post"
  | .list | .get => "get"
  | .update => "put"
  | .delete => "delete"

def ofItem : Endpoint → Bool
  | .create | .list => false
  | .get | .update | .delete => true

end Endpoint

namespace Service

def defaultPageSize : Nat := 50

def maxPageSize : Nat := 500

end Service

namespace Schema

def requestFields (s : Schema) (allOptional : Bool) : List RequestField :=
  s.attributes.map (fun p => p.1.requestField allOptional p.2)

def answerFields (s : Schema) : List AnswerField := s.attributes.map (fun p => p.1.answerField p.2)

/-- The model class, always qualified: an entity may be named like something imported. -/
def modelRef (s : Schema) : String := "models." ++ s.className

def collectionPath (s : Schema) : String := "/" ++ s.pathSegment

def serviceHead (s : Schema) : List String :=
  ["import os"] ++
  (if s.dataFields.any (fun f => f.type = .date) then ["from datetime import date"] else []) ++
  ["from typing import List, Optional",
   "",
   "from fastapi import Depends, FastAPI, HTTPException, Query",
   "from pydantic import BaseModel, ConfigDict, EmailStr, Field",
   "from sqlalchemy import create_engine, select",
   "from sqlalchemy.orm import Session, sessionmaker",
   "",
   "import models",
   "",
   "engine = create_engine(os.environ.get(\"DATABASE_URL\", \"sqlite:///./app.db\"))",
   "SessionLocal = sessionmaker(bind=engine, autoflush=False)",
   "",
   "app = FastAPI(title=\"" ++ s.className ++ " API\")",
   "",
   "",
   "def _db_session():",
   "    db = SessionLocal()",
   "    try:",
   "        yield db",
   "    finally:",
   "        db.close()",
   "",
   ""]

def requestModel (s : Schema) (suffix : String) (allOptional : Bool) : List String :=
  ["class " ++ s.className ++ suffix ++ "(BaseModel):",
   "    model_config = ConfigDict(populate_by_name=True)",
   ""] ++
  (s.requestFields allOptional).map RequestField.line ++
  ["", ""]

/-- **The request model of an operation**, if it takes data. -/
def requestBlock (s : Schema) : Operation → List String
  | .create => s.requestModel "Create" false
  | .update => s.requestModel "Update" true
  | .read | .delete => []

def answerBlock (s : Schema) : List String :=
  ["class " ++ s.className ++ "Out(BaseModel):",
   "    model_config = ConfigDict(from_attributes=True)",
   "",
   "    " ++ identityName ++ ": int"] ++
  s.answerFields.map AnswerField.line ++
  ["",
   "",
   "def _get_or_404(db: Session, item_id: int) -> " ++ s.modelRef ++ ":",
   "    item = db.get(" ++ s.modelRef ++ ", item_id)",
   "    if item is None:",
   "        raise HTTPException(status_code=404, detail=f\"" ++ s.className ++ " \x7bitem_id\x7d not found\")",
   "    return item"]

def routeLine (s : Schema) (e : Endpoint) (arguments : String) : String :=
  "@app." ++ e.method ++ "(\"" ++ s.collectionPath ++
    (if e.ofItem then "/\x7bitem_id\x7d" else "") ++ "\", " ++ arguments ++ ")"

def listLines (s : Schema) : List String :=
  let query := "    stmt = select(" ++ s.modelRef ++ ").order_by(" ++ s.modelRef ++ "." ++ identityName ++ ")"
  if s.paginate then
    ["def list_" ++ s.tableName ++ "(",
     "    limit: int = Query(" ++ toString Service.defaultPageSize ++
       ", ge=1, le=" ++ toString Service.maxPageSize ++ "),",
     "    offset: int = Query(0, ge=0),",
     "    db: Session = Depends(_db_session),",
     "):",
     query ++ ".limit(limit).offset(offset)"]
  else
    ["def list_" ++ s.tableName ++ "(db: Session = Depends(_db_session)):",
     query]

def endpointLines (s : Schema) (e : Endpoint) : List String :=
  match e with
  | .create =>
    [s.routeLine e ("response_model=" ++ s.className ++ "Out, status_code=201"),
     "def create_" ++ s.rowName ++ "(payload: " ++ s.className ++ "Create, db: Session = Depends(_db_session)):",
     "    item = " ++ s.modelRef ++ "(**payload.model_dump(exclude_unset=True))",
     "    db.add(item)",
     "    db.commit()",
     "    db.refresh(item)",
     "    return item"]
  | .list =>
    [s.routeLine e ("response_model=List[" ++ s.className ++ "Out]")] ++ s.listLines ++
    ["    return db.scalars(stmt).all()"]
  | .get =>
    [s.routeLine e ("response_model=" ++ s.className ++ "Out"),
     "def get_" ++ s.rowName ++ "(item_id: int, db: Session = Depends(_db_session)):",
     "    return _get_or_404(db, item_id)"]
  | .update =>
    [s.routeLine e ("response_model=" ++ s.className ++ "Out"),
     "def update_" ++ s.rowName ++ "(item_id: int, payload: " ++ s.className ++
       "Update, db: Session = Depends(_db_session)):",
     "    item = _get_or_404(db, item_id)",
     "    for key, value in payload.model_dump(exclude_unset=True).items():",
     "        setattr(item, key, value)",
     "    db.commit()",
     "    db.refresh(item)",
     "    return item"]
  | .delete =>
    [s.routeLine e "status_code=204",
     "def delete_" ++ s.rowName ++ "(item_id: int, db: Session = Depends(_db_session)):",
     "    item = _get_or_404(db, item_id)",
     "    db.delete(item)",
     "    db.commit()",
     "    return None"]

def endpointBlock (s : Schema) (e : Endpoint) : List String := ["", ""] ++ s.endpointLines e

def endpointsOf : Operation → List Endpoint
  | .create => [.create]
  | .read => [.list, .get]
  | .update => [.update]
  | .delete => [.delete]

/-- The enabled operations, in the order in which the service has them. -/
def enabledOperations (s : Schema) : List Operation := Operation.all.filter s.operations.enabled

/-- **The endpoints of the service**: those of the enabled operations. -/
def endpoints (s : Schema) : List Endpoint := s.enabledOperations.flatMap endpointsOf

def serviceTail : List String :=
  ["",
   "",
   "if __name__ == \"__main__\":",
   "    models.Base.metadata.create_all(engine)"]

def serviceLines (s : Schema) : List String :=
  s.serviceHead ++ s.enabledOperations.flatMap s.requestBlock ++ s.answerBlock ++ s.endpoints.flatMap s.endpointBlock ++
    serviceTail

def service (s : Schema) : String := "\n".intercalate s.serviceLines ++ "\n"

end Schema
end Scaffold
