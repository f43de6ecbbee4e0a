import Scaffold.Interpreter.Basic
/-!
# Interpreter.Template — the interpreter that needs no service

It answers every prompt with the same fields; only the hints say how the entity is called and what can be done with it.
Feedback leaves the schema as it is.
-/
namespace Scaffold
namespace Template

def defaultEntity : String := "Book"

/-- **The name of the entity**: the hint without white space around it, if anything is left. -/
def entityName (h : Hints) : Wording :=
  let name := (h.entityName?.getD "").trimmed
  if name.isEmpty then defaultEntity else name

def starterField (name label type : String) (required : Bool) (default? : Option String) : Json :=
  let field : Json.Members :=
    [("name", .str name), ("label", .str label), ("type", .str type), ("required", .bool required)]
  .obj (field.also "defaultValue" (default?.map (fun v => .str v)))

def starterFields : List Json :=
  [starterField "id" "ID" "number" true none,
   starterField "title" "Title" "string" true none,
   starterField "author" "Author" "string" true none,
   starterField "publication_year" "Publication Year" "number" false none,
   starterField "stock" "Stock" "number" false (some "0")]

def starter (h : Hints) : Json :=
  .obj [("entityName", .str (entityName h)), ("fields", .arr starterFields), ("operations", h.operations.toJson)]

def answer : Task → Interpretation
  | .interpret _ hints => .data (starter hints)
  | .refine schema _ => .schema schema

def logger : String := "appgen.interpreters.template"

def log : Task → List Log.Line
  | .interpret _ hints => [Log.info logger s!"Template interpretation for entity {displayed (entityName hints)}"]
  | .refine _ feedback => [Log.info logger s!"Template refinement ignores feedback ({feedback.length} chars)"]

def interpreter : Interpreter := { answer := fun task => .ok (answer task), log := log }

end Template
end Scaffold
