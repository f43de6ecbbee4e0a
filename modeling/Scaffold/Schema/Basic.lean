import Scaffold.Json.Basic
import Scaffold.Naming
/-!
# Schema — an entity, its fields and its operations

A schema is a value: every edit gives a new one.  At most one field is the identity, the first whose name is `id` in any
spelling of case; the others are the data fields.
-/
namespace Scaffold

inductive FieldType where
  | string
  | number
  | boolean
  | date
  | email
  | text
deriving DecidableEq, Repr

namespace FieldType

def all : List FieldType := [.string, .number, .boolean, .date, .email, .text]

def name : FieldType → String
  | .string => "string"
  | .number => "number"
  | .boolean => "boolean"
  | .date => "date"
  | .email => "email"
  | .text => "text"

def ofName? (s : String) : Option FieldType := all.find? (fun t => t.name = s)

end FieldType

inductive Operation where
  | create
  | read
  | update
  | delete
deriving DecidableEq, Repr

namespace Operation

def all : List Operation := [.create, .read, .update, .delete]

def name : Operation → String
  | .create => "create"
  | .read => "read"
  | .update => "update"
  | .delete => "delete"

def ofName? (s : String) : Option Operation := all.find? (fun o => o.name = s)

def ofJson? : Json → Option Operation
  | .str w => w.text?.bind ofName?
  | _ => none

end Operation

structure Operations where
  create : Bool := true
  read : Bool := true
  update : Bool := true
  delete : Bool := true
deriving DecidableEq, Repr

namespace Operations

def enabled (ops : Operations) : Operation → Bool
  | .create => ops.create
  | .read => ops.read
  | .update => ops.update
  | .delete => ops.delete

def set (ops : Operations) (op : Operation) (b : Bool) : Operations :=
  match op with
  | .create => { ops with create := b }
  | .read => { ops with read := b }
  | .update => { ops with update := b }
  | .delete => { ops with delete := b }

def toggle (ops : Operations) (op : Operation) : Operations := ops.set op (!ops.enabled op)

def anyEnabled (ops : Operations) : Bool := ops.create || ops.read || ops.update || ops.delete

def ofList (l : List Operation) : Operations :=
  ⟨l.contains .create, l.contains .read, l.contains .update, l.contains .delete⟩

def toJson (ops : Operations) : Json :=
  .obj [("create", .bool ops.create), ("read", .bool ops.read), ("update", .bool ops.update),
    ("delete", .bool ops.delete)]

end Operations

structure Field where
  id : Wording
  name : Wording
  label : Wording := ""
  type : FieldType := .string
  required : Bool := false
  default? : Option Wording := none
  indexed : Bool := false
deriving DecidableEq, Repr

namespace Field

def namesIdentity (f : Field) : Bool := Naming.namesIdentity f.name

def toJson (f : Field) : Json :=
  .obj [("id", .str f.id), ("name", .str f.name), ("label", .str f.label), ("type", .str f.type.name),
    ("required", .bool f.required), ("defaultValue", Json.ofWording? f.default?), ("indexed", .bool f.indexed)]

def caption (f : Field) : Wording := if f.label.isEmpty then f.name else f.label

end Field

structure Schema where
  entityName : Wording
  fields : List Field := []
  operations : Operations := {}
  paginate : Bool := false
deriving DecidableEq, Repr

namespace Schema

def field? (s : Schema) (id : Wording) : Option Field := s.fields.find? (fun f => f.id = id)

/-- **The identity field**: the first that names the identity column. -/
def identity? (s : Schema) : Option Field := s.fields.find? Field.namesIdentity

/-- **The data fields**: all but the identity field. -/
def dataFields (s : Schema) : List Field := s.fields.eraseP Field.namesIdentity

def toJson (s : Schema) : Json :=
  .obj [("entityName", .str s.entityName), ("fields", .arr (s.fields.map Field.toJson)),
    ("operations", s.operations.toJson), ("paginate", .bool s.paginate)]

end Schema
end Scaffold
