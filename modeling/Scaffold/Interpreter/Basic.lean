import Scaffold.Json.Document
import Scaffold.Log
import Scaffold.Schema.OperationSet
import Scaffold.Url.Host
/-!
# Interpreter — from a prompt to a schema

An interpreter is asked for a schema from a prompt with hints, or for a new version of a schema from feedback.  It
answers with a schema or with data for one, or it fails: for a reason that the user is told, or by a fault that nobody
foresaw.
-/
namespace Scaffold

structure Hints where
  entityName? : Option Wording := none
  operations : Operations := {}
deriving DecidableEq, Repr

namespace Hints

def modelName : String := "InterpretationParams"

def checkOperations (place : List Step) : Json → Checked Operations
  | .arr items => (Checked.list Operation.check place 0 items).map Operations.ofList
  | v => .fault place .notSet v

def ofJson : Json → Checked Hints
  | .obj m =>
    Hints.mk
      <$> Check.optional m [] Schema.entityNameKeys none Check.string?
      <*> Check.optional m [] ["operations"] {} checkOperations
  | v => .fault [] (.notModel modelName) v

def operationNames (h : Hints) : List String :=
  ([.create, .delete, .read, .update].filter h.operations.enabled).map Operation.name

end Hints

inductive Task where
  | interpret (prompt : String) (hints : Hints)
  | refine (schema : Schema) (feedback : String)
deriving DecidableEq, Repr

inductive InterpretationError where
  | unreachable (reason : String)
  | unwritable (e : Text.EncodeError)
  | badHost (e : Url.HostError)
  | relativeAddress (url : String)
  | status (code : Int) (action : String)
  | notJson (reason : String)
  | noSchema
  | malformed (issues : List Issue)
  | invalidSchema (issues : List Issue)
  | stated (reason : String)

namespace InterpretationError

def message : InterpretationError → String
  | .unreachable reason => "Interpretation service unreachable: " ++ reason
  | .unwritable e => "Interpretation service returned invalid JSON: " ++ e.message
  | .badHost e => "Interpretation service returned invalid JSON: " ++ e.message
  | .relativeAddress url => "Interpretation service returned invalid JSON: unknown url type: " ++ displayed url
  | .status code action => s!"Interpretation service returned {code} for {action}"
  | .notJson reason => "Interpretation service returned invalid JSON: " ++ reason
  | .noSchema => "Interpretation service returned no schema"
  | .malformed issues => "Interpretation service returned a malformed schema: " ++ issuesText Schema.modelName issues
  | .invalidSchema issues => "Interpretation returned an invalid schema: " ++ issuesText Schema.modelName issues
  | .stated reason => reason

end InterpretationError

/-- **A fault that is not part of the session**: a value of the wrong shape or of too great a depth, an address that is
none, a failure elsewhere, or the caller giving up. -/
inductive Crash where
  | shape (e : ShapeError)
  | address (e : UrlError)
  | tooDeep (container : Json.Container)
  | raised (reason : String)
  | cancelled
deriving DecidableEq, Repr

namespace Crash

def message : Crash → String
  | .shape e => e.message
  | .address e => e.message
  | .tooDeep container => container.tooDeepText
  | .raised reason => reason
  | .cancelled => ""

end Crash

inductive TaskFailure where
  | interpretation (e : InterpretationError)
  | crash (c : Crash)

namespace TaskFailure

def message : TaskFailure → String
  | .interpretation e => e.message
  | .crash c => c.message

end TaskFailure

abbrev TaskAnswer := Except TaskFailure Interpretation

/-- **Whoever answers tasks**, and what it logs while it does. -/
structure Interpreter where
  answer : Task → TaskAnswer
  log : Task → List Log.Line := fun _ => []

namespace Interpreter

def crashing (c : Crash) : Interpreter := { answer := fun _ => .error (.crash c) }

end Interpreter

/-- **The schema made from an answer**, with fresh ids drawn for its fields. -/
def draft (supply : Supply) (answer : TaskAnswer) : Except TaskFailure Schema × Supply :=
  match answer with
  | .error e => (.error e, supply)
  | .ok i =>
    match Schema.create supply i with
    | (.ok s, supply) => (.ok s, supply)
    | (.error (.invalid issues), supply) => (.error (.interpretation (.invalidSchema issues)), supply)
    | (.error (.shape e), supply) => (.error (.crash (.shape e)), supply)

end Scaffold
