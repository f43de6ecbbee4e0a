import Scaffold.Artifact.Component
import Scaffold.Artifact.Model
import Scaffold.Artifact.Script
import Scaffold.Artifact.Service
import Scaffold.Log
import Scaffold.Path
import Scaffold.Schema.Validation
/-!
# Artifact.Bundle — compiling a schema

The four artifacts come together or not at all, and they depend on nothing but the schema.  They are made in one order,
and the first that cannot be made is the reason for the refusal.  `Schema.run` validates first and compiles what has no
errors.
-/
namespace Scaffold

structure Bundle where
  script : String
  model : String
  service : String
  component : String
deriving DecidableEq, Repr

namespace Bundle

def entries (b : Bundle) : Entries String String :=
  [("sql", b.script), ("orm", b.model), ("api", b.service), ("frontend", b.component)]

def toJson (b : Bundle) : Json := .obj (b.entries.map (fun e => (e.1, .str e.2)))

end Bundle

structure CompileError where
  entityName : Wording
  cause : TableError
deriving DecidableEq, Repr

namespace CompileError

def message (e : CompileError) : String := "Failed to compile " ++ displayed e.entityName ++ ": " ++ e.cause.message

end CompileError

structure Outcome where
  success : Bool
  errors : List Finding
  warnings : List Finding
  files? : Option Bundle
deriving DecidableEq, Repr

namespace Finding

def toJson (f : Finding) : Json :=
  let finding : Json.Members := [("code", .str f.code), ("message", .str f.message)]
  .obj (finding.also "field" (f.field?.map Json.str))

end Finding

namespace Outcome

def toJson (o : Outcome) : Json :=
  let report : Json.Members := [("success", .bool o.success), ("errors", .arr (o.errors.map Finding.toJson)),
    ("warnings", .arr (o.warnings.map Finding.toJson))]
  .obj (report.also "generatedFiles" (o.files?.map Bundle.toJson))

end Outcome

namespace Schema

def withDefault {α : Type} (x : Except DefaultError α) : Except TableError α := x.mapError .badDefault

def artifacts (s : Schema) : Except TableError Bundle := do
  let script ← s.script
  let model ← withDefault s.model
  let component ← withDefault s.component
  .ok ⟨script, model, s.service, component⟩

def compile (s : Schema) : Except CompileError Bundle := s.artifacts.mapError (CompileError.mk s.entityName)

def compileLogger : String := "appgen.generators.compiler"

def compileLog (s : Schema) : List Log.Line :=
  match s.compile with
  | .ok _ => [Log.info compileLogger s!"Compiled {s.fields.length} fields for entity {displayed s.entityName}"]
  | .error e =>
    [{ level := .error, logger := compileLogger,
       message := s!"Compilation failed for entity {displayed s.entityName}: {e.cause.message}" }]

/-- **The result for a schema**: its report, and the artifacts if it has no errors. -/
def run (threshold : Int) (s : Schema) : Except CompileError Outcome :=
  let report := s.validate threshold
  if report.ok then s.compile.map (fun b => ⟨true, [], report.warnings, some b⟩)
  else .ok ⟨false, report.errors, report.warnings, none⟩

def runLog (threshold : Int) (s : Schema) : List Log.Line :=
  let report := s.validate threshold
  if report.ok then s.compileLog
  else
    let counts := s!"{report.errors.length} errors, {report.warnings.length} warnings"
    [Log.info "appgen.validators.engine" s!"Validation failed for entity {displayed s.entityName}: {counts}"]

/-- **Where each artifact belongs**, relative to the root of the application. -/
def paths (s : Schema) : Entries String String :=
  [("sql", "backend/sql/schema.sql"), ("orm", "backend/models.py"), ("api", "backend/app.py"),
   ("frontend", "frontend/src/components/" ++ s.className ++ "List.jsx")]

def filesUnder (s : Schema) (directory : String) (b : Bundle) : List (String × String) :=
  s.paths.map (fun p => (Path.under directory p.2, (b.entries.get? p.1).getD ""))

def writeLog (s : Schema) (directory : String) : List Log.Line :=
  [Log.info compileLogger s!"Wrote {s.paths.length} artifacts under {Path.shown directory}"]

end Schema
end Scaffold
