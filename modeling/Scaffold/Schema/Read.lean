import Scaffold.Schema.Basic
import Scaffold.Check.Basic
/-!
# Schema.Read — schemas from their data

The shape of a schema in the data format, part by part.  Keys that are not known are passed over; a name of two words is
also read under its second spelling; truth values may be given as numbers or words.
-/
namespace Scaffold

namespace FieldType

def check (place : List Step) (v : Json) : Checked FieldType :=
  match v with
  | .str w => Check.text place w (fun s => match ofName? s with
    | some t => .ok t
    | none => .fault place (.notLiteral (all.map name)) v)
  | _ => .fault place (.notLiteral (all.map name)) v

end FieldType

namespace Operation

def check (place : List Step) (v : Json) : Checked Operation :=
  match ofJson? v with
  | some o => .ok o
  | none => .fault place (.notMember (all.map name)) v

end Operation

namespace Field

/-- The keys of the default value, the one of the data format first. -/
def defaultKeys : List String := ["defaultValue", "default_value"]

def ofMembers (place : List Step) (m : Json.Members) : Checked Field :=
  (fun id name label type required default? indexed => Field.mk id name label type required default? indexed)
    <$> Check.required m place ["id"] Check.string
    <*> Check.required m place ["name"] Check.string
    <*> Check.optional m place ["label"] "" Check.string
    <*> Check.optional m place ["type"] .string FieldType.check
    <*> Check.optional m place ["required"] false Check.bool
    <*> Check.optional m place defaultKeys none Check.string?
    <*> Check.optional m place ["indexed"] false Check.bool

def check (place : List Step) : Json → Checked Field
  | .obj m => ofMembers place m
  | v => .fault place (.notModel "FieldDefinition") v

/-- **The members that describe a field**, under the names that edits use. -/
def members (f : Field) : Json.Members :=
  [("id", .str f.id), ("name", .str f.name), ("label", .str f.label), ("type", .str f.type.name),
    ("required", .bool f.required), ("default_value", Json.ofWording? f.default?), ("indexed", .bool f.indexed)]

end Field

namespace Operations

def check (place : List Step) : Json → Checked Operations
  | .obj m =>
    Operations.mk
      <$> Check.optional m place ["create"] true Check.bool
      <*> Check.optional m place ["read"] true Check.bool
      <*> Check.optional m place ["update"] true Check.bool
      <*> Check.optional m place ["delete"] true Check.bool
  | v => .fault place (.notModel "Operations") v

end Operations

namespace Schema

def entityNameKeys : List String := ["entityName", "entity_name"]

def checkFields (place : List Step) : Json → Checked (List Field)
  | .arr items => Checked.list Field.check place 0 items
  | v => .fault place .notTuple v

def ofMembers (m : Json.Members) : Checked Schema :=
  Schema.mk
    <$> Check.required m [] entityNameKeys Check.string
    <*> Check.optional m [] ["fields"] [] checkFields
    <*> Check.optional m [] ["operations"] {} Operations.check
    <*> Check.optional m [] ["paginate"] false Check.bool

def modelName : String := "SchemaDefinition"

def ofJson : Json → Checked Schema
  | .obj m => ofMembers m
  | v => .fault [] (.notModel modelName) v

end Schema
end Scaffold
