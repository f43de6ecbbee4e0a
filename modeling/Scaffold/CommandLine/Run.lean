import Scaffold.CommandLine.Arguments
import Scaffold.Disk
import Scaffold.Schema.OperationSet
import Scaffold.Session.Workflow
import Scaffold.Text.Encoding
/-!
# CommandLine.Run — one session from the prompt to the files

The draft is shown, confirmed and, if it has no errors, its artifacts become files under the output directory.  What is
shown is written in UTF-8, so a draft with half of a pair in one of its lines ends the run.  Files are written in the
last step only: whatever goes wrong before leaves none.  `run` says how a run ends and what it asks to be written, and
`Completion.onDisk` what becomes of that on a disk.
-/
namespace Scaffold
namespace CommandLine

inductive Abort where
  | refused (e : MockupError)
  | report (e : ReportFailure)
  | output (e : Text.EncodeError)
  | disk (e : DiskError)

namespace Abort

def message : Abort → String
  | .refused e => e.message
  | .report e => e.message
  | .output e => e.message
  | .disk e => e.message

end Abort

/-- **How a run ends** if its files can be written: with an exit code or by a fault, what it prints and logs, the files,
and what it prints and logs once they are written. -/
structure Completion where
  ending : Except Abort Nat
  output : List String := []
  log : List Log.Line := []
  files : List (String × String) := []
  closing : List String := []
  closingLog : List Log.Line := []

structure Result where
  ending : Except Abort Nat
  output : List String
  log : List Log.Line
  disk : Disk

namespace Result

def text (r : Result) : String := String.join (r.output.map (· ++ "\n"))

/-- The exit code; a fault has one of its own. -/
def status (r : Result) : Nat :=
  match r.ending with
  | .ok code => code
  | .error _ => 1

end Result

namespace Completion

/-- **What becomes of a run on a disk**: a file that cannot be written ends it, with the files before it in place. -/
def onDisk (c : Completion) (d : Disk) : Result :=
  match d.writeAll c.files with
  | (d, .ok ()) => ⟨c.ending, c.output ++ c.closing, c.log ++ c.closingLog, d⟩
  | (d, .error e) => ⟨.error (.disk e), c.output, c.log, d⟩

end Completion

def operationsIn (text : String) : Except OperationError Operations :=
  let names := ((Text.split ',' text.toList).map Text.trim).filter (fun n => !n.isEmpty)
  (Operation.ofAll (names.map (fun n => .str (String.ofList n)))).map Operations.ofList

/-! ## The draft is shown -/

def fieldLine (f : Field) : Wording :=
  let flags := if f.required then " required" else ""
  let default : List Wording := match f.default? with
    | some v => [" default=", v]
    | none => []
  .concat ("  " :: f.name :: ": " :: f.type.name :: flags :: default)

def schemaLines (s : Schema) : List Wording :=
  .concat ["Schema for ", s.entityName, ":"] :: s.fields.map fieldLine ++ [("" : Wording)]

/-- **What is printed of lines**: all of them, or those before the first that cannot be written in UTF-8. -/
def printed : List Wording → List String × Option Text.EncodeError
  | [] => ([], none)
  | line :: rest =>
    match Text.encodeError? line.signs with
    | some e => ([], some e)
    | none =>
      let (l, e?) := printed rest
      (line.shown :: l, e?)

/-- Prints lines and goes on, or ends where a line cannot be printed. -/
def printing (log : List Log.Line) (lines : List Wording) (next : List String → Completion) : Completion :=
  match printed lines with
  | (output, none) => next output
  | (output, some e) => { ending := .error (.output e), output := output, log := log }

/-! ## From the draft to the files -/

-- the names and defaults that findings speak of have been shown, so no line of these is refused

def warningLine (f : Finding) : String := s!"WARNING [{f.code}] {f.message}"

def errorLine (f : Finding) : String := s!"ERROR [{f.code}] {f.message}"

def conclude (w : Workflow) (a : Arguments) (schema : Schema) (outcome : Outcome) (output : List String) : Completion :=
  let output := output ++ outcome.warnings.map warningLine
  match outcome.success, outcome.files? with
  | true, some bundle =>
    let files := schema.filesUnder a.out bundle
    { ending := .ok 0, output := output, log := w.log, files := files,
      closing := files.map (fun f => "Wrote " ++ f.1), closingLog := schema.writeLog a.out }
  | _, _ => { ending := .ok 1, output := output ++ outcome.errors.map errorLine, log := w.log }

def confirmed (w : Workflow) (a : Arguments) (pipeline : Pipeline) (output : List String) : Completion :=
  let edited : Except MockupError Workflow := if a.paginate then w.edit (.setPagination true) else .ok w
  match edited.bind (fun w => w.confirm.mapError .refused) with
  | .error e => { ending := .error (.refused e), output := output, log := w.log }
  | .ok (w, call) =>
    match w.endReport pipeline call with
    | (w, .error e) => { ending := .error (.report e), output := output, log := w.log }
    | (w, .ok none) => { ending := .ok 1, output := output, log := w.log }
    | (w, .ok (some outcome)) => conclude w a call.schema outcome output

def report (w : Workflow) (a : Arguments) (schema : Schema) (pipeline : Pipeline) : Completion :=
  printing w.log (schemaLines schema) (confirmed w a pipeline)

def runWith (a : Arguments) (operations : Operations) (interpreter : Interpreter) (pipeline : Pipeline) : Completion :=
  match (Workflow.start none).submit a.prompt ⟨a.entityName?, operations⟩ with
  | .error r => { ending := .error (.refused (.refused r)) }
  | .ok (w, call) =>
    match w.endDraft interpreter call with
    | (w, .error c) => { ending := .error (.report (.crash c)), log := w.log }
    | (w, .ok applied) =>
      match applied, w.session.schema? with
      | true, some schema => report w a schema pipeline
      | _, _ =>
        { ending := .ok 1, output := ["Interpretation failed: " ++ w.session.error?.getD ""], log := w.log }

def run (arguments : List String) (interpreter : Interpreter) (pipeline : Pipeline) : Completion :=
  match parse arguments with
  | .error .usage => { ending := .ok 2 }
  | .error .help => { ending := .ok 0 }
  | .ok a =>
    match operationsIn a.operations with
    | .error e => { ending := .ok 2, output := ["Error: " ++ e.message] }
    | .ok operations => runWith a operations interpreter pipeline

end CommandLine
end Scaffold
