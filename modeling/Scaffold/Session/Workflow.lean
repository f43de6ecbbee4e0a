import Scaffold.Session.Edit
import Scaffold.Session.Log
/-!
# Session.Workflow — a session at work

A workflow is a session together with the supply of ids and what was logged.  A request gives a call, which whoever
holds it can end at any later time with an interpreter or a pipeline; in between the session may have moved on.
-/
namespace Scaffold

/-- **Whatever turns a schema into a report**, and what it logs while it does. -/
structure Pipeline where
  run : Schema → Except ReportFailure Outcome
  log : Schema → List Log.Line := fun _ => []

namespace Pipeline

def standard (threshold : Int) : Pipeline where
  run schema := (schema.run threshold).mapError (fun e => .compilation e.message)
  log schema := schema.runLog threshold

def failing (failure : ReportFailure) : Pipeline := { run := fun _ => .error failure }

end Pipeline

structure Workflow where
  session : Session
  supply : Supply
  log : List Log.Line := []

namespace Workflow

def start (id? : Option String) : Workflow :=
  let (session, supply) := Session.start id? {}
  { session := session, supply := supply }

def dispatched {α : Type} (w : Workflow) (action : Action) (token : α → Nat) (r : Except Refusal (Session × α)) :
    Except Refusal (Workflow × α) :=
  r.map (fun (session, call) =>
    ({ w with session := session, log := w.log ++ session.dispatchLog action (token call) }, call))

def submit (w : Workflow) (prompt : String) (hints : Hints) : Except Refusal (Workflow × DraftCall) :=
  w.dispatched .submit DraftCall.token (w.session.submit prompt hints)

def regenerate (w : Workflow) (feedback : String) : Except Refusal (Workflow × DraftCall) :=
  w.dispatched .regenerate DraftCall.token (w.session.regenerate feedback)

def confirm (w : Workflow) : Except Refusal (Workflow × ReportCall) :=
  w.dispatched .confirm ReportCall.token w.session.confirm

/-- **A call for a draft ends with an interpreter's answer.**  Ids are drawn for the answer even if it comes too
late. -/
def endDraft (w : Workflow) (interpreter : Interpreter) (call : DraftCall) : Workflow × Except Crash Bool :=
  let (answer, supply) := draft w.supply (interpreter.answer call.task)
  ({ session := w.session.endDraft call answer, supply := supply,
     log := w.log ++ interpreter.log call.task ++ w.session.endDraftLog call answer },
   w.session.draftResult call answer)

def endReport (w : Workflow) (pipeline : Pipeline) (call : ReportCall) :
    Workflow × Except ReportFailure (Option Outcome) :=
  let answer := pipeline.run call.schema
  ({ w with
     session := w.session.endReport call answer,
     log := w.log ++ pipeline.log call.schema ++ w.session.endReportLog call answer },
   w.session.reportResult call answer)

def startOver (w : Workflow) : Workflow :=
  let session := w.session.startOver
  { w with session := session, log := w.log ++ w.session.startOverLog session }

def revise (w : Workflow) : Except Refusal Workflow :=
  w.session.revise.map (fun session => { w with session := session })

def edit (w : Workflow) (e : Edit) : Except MockupError Workflow :=
  (w.session.edit w.supply e).map (fun r => { w with session := r.1, supply := r.2 })

end Workflow
end Scaffold
