import Scaffold.Schema.Create
/-!
# Schema.Edit — edits of a schema

An edit gives a new schema or leaves everything as it was.  A field is found by its id, which no edit changes; what an
edit makes of a field must be a field again, but names may clash for a while.  A change may not be called like one of
the operands of the edit.
-/
namespace Scaffold

inductive Edit where
  | setEntityName (name : Wording)
  | updateField (id : String) (changes : Json.Members)
  | addField
  | removeField (id : String)
  | toggleOperation (operation : Json)
  | setPagination (enabled : Bool)

/-- **Operands of an operation**: the names that no change may have. -/
structure Operands where
  operation : String
  names : List String

inductive EditError where
  | operandTaken (operation name : String)
  | fieldNotFound (id : String)
  | invalidField (issues : List Issue)
  | notOperation (v : Json)

def notOperationText (v : Json) : String := v.display ++ " is not a valid Operation"

namespace EditError

def message : EditError → String
  | .operandTaken operation name => s!"{operation}() got multiple values for argument '{name}'"
  | .fieldNotFound id => s!"Field {displayed id} not found"
  | .invalidField issues => issuesText "FieldDefinition" issues
  | .notOperation v => notOperationText v

end EditError

namespace Operands

def ofUpdate : Operands := ⟨"update_field", ["schema", "field_id"]⟩

/-- **Refuses changes of which one is called like an operand**, for the first of them. -/
def check (o : Operands) (changes : Json.Members) : Except EditError Unit :=
  match changes.find? (fun c => c.1.text?.any o.names.contains) with
  | some c => .error (.operandTaken o.operation c.1.shown)
  | none => .ok ()

end Operands

namespace Field

/-- **The members of a field after changes**: the id stays, both spellings of the default value change it, and an empty
default is none. -/
def changedMembers (f : Field) (changes : Json.Members) : Json.Members :=
  let changes := changes.erase "id"
  let merged : Json.Members := Entries.merge f.members changes
  let merged : Json.Members := match changes.get? "defaultValue" with
    | some v => (merged.erase "defaultValue").set "default_value" v
    | none => merged
  match merged.get? "default_value" with
  | some (.str ⟨[]⟩) => merged.set "default_value" .null
  | _ => merged

def update (f : Field) (changes : Json.Members) : Checked Field := ofMembers [] (f.changedMembers changes)

def fresh (id : String) : Field := { id := id, name := "new_field", label := "New Field" }

end Field

namespace Schema

def setEntityName (s : Schema) (name : Wording) : Schema := { s with entityName := name }

def setPagination (s : Schema) (enabled : Bool) : Schema := { s with paginate := enabled }

def updateFields (id : String) (changes : Json.Members) : List Field → Except EditError (List Field)
  | [] => .error (.fieldNotFound id)
  | f :: rest =>
    if f.id = id then
      match f.update changes with
      | .ok g => .ok (g :: rest)
      | .refused issues => .error (.invalidField issues)
    else (updateFields id changes rest).map (f :: ·)

def updateField (s : Schema) (id : String) (changes : Json.Members) : Except EditError Schema := do
  Operands.ofUpdate.check changes
  let fields ← updateFields id changes s.fields
  .ok { s with fields := fields }

def addField (s : Schema) (id : String) : Schema := { s with fields := s.fields ++ [Field.fresh id] }

def removeField (s : Schema) (id : String) : Except EditError Schema :=
  match s.field? id with
  | none => .error (.fieldNotFound id)
  | some _ => .ok { s with fields := s.fields.filter (fun f => f.id ≠ id) }

def toggleOperation (s : Schema) (v : Json) : Except EditError Schema :=
  match Operation.ofJson? v with
  | some op => .ok { s with operations := s.operations.toggle op }
  | none => .error (.notOperation v)

/-- **The schema after an edit**, and the supply; a refused edit draws no id. -/
def apply (supply : Supply) (s : Schema) : Edit → Except EditError (Schema × Supply)
  | .setEntityName name => .ok (s.setEntityName name, supply)
  | .updateField id changes => (s.updateField id changes).map (·, supply)
  | .addField => let (id, supply) := supply.draw; .ok (s.addField id, supply)
  | .removeField id => (s.removeField id).map (·, supply)
  | .toggleOperation v => (s.toggleOperation v).map (·, supply)
  | .setPagination enabled => .ok (s.setPagination enabled, supply)

end Schema
end Scaffold
