import Scaffold.Session.Workflow
import Scaffold.Web.Response
import Scaffold.Web.Route
/-!
# Web.Server — answering requests

`Server.receive` takes a request as far as it goes by itself.  A prompt, feedback or a confirmation then waits for an
interpreter or a pipeline, and `Server.endDraft` and `Server.endReport` answer it; `Server.handle` does both at once.
-/
namespace Scaffold
namespace Web

structure Request where
  method : String
  path : List Char
  body : List Char := []

/-- **A request that was received**: answered, or waiting for the end of a call. -/
inductive Reception where
  | answered (w : Workflow) (response : Response)
  | drafting (w : Workflow) (call : DraftCall)
  | reporting (w : Workflow) (call : ReportCall)

namespace Server

def waiting {α : Type} (w : Workflow) (wait : Workflow → α → Reception) :
    Except Refusal (Workflow × α) → Reception
  | .ok (w, call) => wait w call
  | .error r => .answered w (.conflict r)

def edited (w : Workflow) (e : Edit) : Reception :=
  match w.edit e with
  | .ok w => .answered w (.session w.session)
  | .error e => .answered w (.ofMockupError e)

def carrying {α : Type} (w : Workflow) (shape : Json.Members → Checked α) (body : List Char)
    (use : α → Reception) : Reception :=
  match Payload.read shape body with
  | .ok a => use a
  | .error e => .answered w (.ofBodyError e)

def perform (w : Workflow) (body : List Char) : Endpoint → Reception
  | .health => .answered w (.ofJson 200 (.obj [("status", .str "ok")]))
  | .showSession => .answered w (.session w.session)
  | .submit => carrying w Payload.prompt body (fun p => waiting w .drafting (w.submit p.1 p.2))
  | .regenerate => carrying w Payload.feedback body (fun feedback => waiting w .drafting (w.regenerate feedback))
  | .confirm => waiting w .reporting w.confirm
  | .startOver => .answered w.startOver (.session w.startOver.session)
  | .revise =>
    match w.revise with
    | .ok w => .answered w (.session w.session)
    | .error r => .answered w (.conflict r)
  | .setEntityName => carrying w Payload.entityName body (fun name => edited w (.setEntityName name))
  | .addField => edited w .addField
  | .updateField id => carrying w Payload.changes body (fun changes => edited w (.updateField id changes))
  | .removeField id => edited w (.removeField id)
  | .toggleOperation name =>
    match Operation.check [.key "path", .key "op"] (.str name) with
    | .ok op => edited w (.toggleOperation (.str op.name))
    | .refused issues => .answered w (.invalidRequest issues)
  | .setPagination => carrying w Payload.enabled body (fun enabled => edited w (.setPagination enabled))

def receive (w : Workflow) (q : Request) : Reception :=
  match route q.method q.path with
  | .found endpoint => perform w q.body endpoint
  | .wrongMethod => .answered w .wrongMethod
  | .redirected => .answered w .redirect
  | .unknown => .answered w .notFound

def endDraft (w : Workflow) (interpreter : Interpreter) (call : DraftCall) : Workflow × Response :=
  match w.endDraft interpreter call with
  | (w, .ok _) => (w, .session w.session)
  | (w, .error _) => (w, .failed)

def endReport (w : Workflow) (pipeline : Pipeline) (call : ReportCall) : Workflow × Response :=
  match w.endReport pipeline call with
  | (w, .ok _) => (w, .session w.session)
  | (w, .error (.compilation reason)) => (w, .detail 500 reason)
  | (w, .error (.crash _)) => (w, .failed)

def handle (w : Workflow) (interpreter : Interpreter) (pipeline : Pipeline) (q : Request) : Workflow × Response :=
  match receive w q with
  | .answered w r => (w, r)
  | .drafting w call => endDraft w interpreter call
  | .reporting w call => endReport w pipeline call

def startLog : List Log.Line := [Log.info "appgen.main" "Starting API server..."]

def stopLog : List Log.Line := [Log.info "appgen.main" "Shutting down API server..."]

end Server
end Web
end Scaffold
