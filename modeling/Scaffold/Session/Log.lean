import Scaffold.Session.Completion
/-!
# Session.Log — what a session logs

Every line carries the id of the session and its step at that moment.
-/
namespace Scaffold
namespace Session

def line (s : Session) (level : Log.Level) (message : String) : Log.Line :=
  { level := level, logger := "appgen.core.controller", session := s.id, step := s.phase.text, message := message }

def dispatchLog (s : Session) (action : Action) (token : Nat) : List Log.Line :=
  [s.line .info s!"Dispatched {action.name} (token {token})"]

def staleLine (s : Session) (action : Action) (token : Nat) : Log.Line :=
  s.line .info s!"Discarding stale {action.name} result (token {token})"

def failureWord : Task → String
  | .interpret .. => "Interpretation"
  | .refine .. => "Refinement"

def draftText (task : Task) (schema : Schema) : String :=
  match task with
  | .interpret .. => s!"Schema for {displayed schema.entityName} ready with {schema.fields.length} fields"
  | .refine .. => "Schema replaced by refinement"

def endDraftLog (s : Session) (call : DraftCall) (answer : Except TaskFailure Schema) : List Log.Line :=
  if s.isLive call.token then
    let after := s.endDraft call answer
    match answer with
    | .ok schema => [after.line .info (draftText call.task schema)]
    | .error (.interpretation e) => [after.line .warning s!"{failureWord call.task} failed: {e.message}"]
    | .error (.crash _) => []
  else [s.staleLine call.task.action call.token]

def reportText (o : Outcome) : String :=
  s!"Report ready: success={Json.display (.bool o.success)} errors={o.errors.length} warnings={o.warnings.length}"

def endReportLog (s : Session) (call : ReportCall) (answer : Except ReportFailure Outcome) : List Log.Line :=
  if s.isLive call.token then
    let after := s.endReport call answer
    match answer with
    | .ok outcome => [after.line .info (reportText outcome)]
    | .error (.compilation _) => [after.line .error "Compilation fault"]
    | .error (.crash _) => []
  else [s.staleLine .confirm call.token]

/-- **What starting over logs**: the request that is abandoned, and the reset. -/
def startOverLog (s after : Session) : List Log.Line :=
  (s.outstanding?.map (fun token => s.line .info s!"Abandoning outstanding request (token {token})")).toList ++
    [after.line .info "Session reset"]

end Session
end Scaffold
