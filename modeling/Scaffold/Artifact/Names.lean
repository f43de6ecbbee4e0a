import Scaffold.Schema.Basic
/-!
# Artifact.Names — the names of one schema

What the artifacts call the entity, and the attribute under which a class keeps each data field.  Names are taken as
they are shown.
-/
namespace Scaffold
namespace Schema

def identityName : String := "id"

def tableName (s : Schema) : String := String.ofList (Naming.table s.entityName.shown.toList)

def pathSegment (s : Schema) : String := String.ofList (Naming.path s.entityName.shown.toList)

def className (s : Schema) : String := String.ofList (Naming.pascal s.entityName.shown.toList)

def rowName (s : Schema) : String := String.ofList (Naming.snake s.entityName.shown.toList)

def attributes (s : Schema) : List (Field × String) :=
  let chosen := Naming.attributeNames (s.dataFields.map (fun f => f.name.shown.toList))
  s.dataFields.map (fun f => (f, String.ofList ((chosen.get? f.name.shown.toList).getD f.name.shown.toList)))

end Schema
end Scaffold
