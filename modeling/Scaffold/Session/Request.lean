import Scaffold.Session.Basic
/-!
# Session.Request — requests that are answered later

A request is submitted, regenerated or confirmed.  It is refused while another one is outstanding, and in every step but
its own.  Otherwise it takes a fresh token, and the session is busy with it until the call with that token ends.
-/
namespace Scaffold

inductive Action where
  | submit
  | regenerate
  | confirm
deriving DecidableEq, Repr

namespace Action

def name : Action → String
  | .submit => "submit"
  | .regenerate => "regenerate"
  | .confirm => "confirm"

/-- **The step in which the action is allowed**, and to which the session goes back if it fails. -/
def start : Action → Phase
  | .submit => .prompt
  | .regenerate | .confirm => .mockup

def during : Action → Phase
  | .submit => .generating .prompt
  | .regenerate => .generating .mockup
  | .confirm => .confirming

end Action

namespace Task

def action : Task → Action
  | .interpret .. => .submit
  | .refine .. => .regenerate

end Task

inductive Refusal where
  | busy (action : Action) (phase : Phase)
  | misplaced (action : Action) (phase : Phase)
  | busyEdit (phase : Phase)
  | misplacedEdit (phase : Phase)
  | misplacedRevision (phase : Phase)
  | finalReport
deriving DecidableEq, Repr

namespace Refusal

def message : Refusal → String
  | .busy action phase => s!"Cannot {action.name}: a request is already outstanding ({phase.text})"
  | .misplaced action phase => s!"Cannot {action.name} from {phase.text}"
  | .busyEdit phase => s!"Cannot edit while {phase.text}"
  | .misplacedEdit phase => s!"Cannot edit the schema from {phase.text}"
  | .misplacedRevision phase => s!"Cannot revise from {phase.text}"
  | .finalReport => "Cannot revise a successful report; start over instead"

def isBusy : Refusal → Bool
  | .busy .. | .busyEdit _ => true
  | _ => false

end Refusal

structure DraftCall where
  token : Nat
  task : Task
deriving DecidableEq, Repr

/-- **A call for a report**: its token and the schema as it was then. -/
structure ReportCall where
  token : Nat
  schema : Schema
deriving DecidableEq, Repr

namespace Session

def dispatch (s : Session) (action : Action) : Except Refusal (Session × Nat) :=
  if s.phase.busy then .error (.busy action s.phase)
  else if s.phase = action.start then
    let token := s.issued + 1
    .ok ({ s with phase := action.during, error? := none, outstanding? := some token, issued := token }, token)
  else .error (.misplaced action s.phase)

def submit (s : Session) (prompt : String) (hints : Hints) : Except Refusal (Session × DraftCall) :=
  (s.dispatch .submit).map (fun r => (r.1, ⟨r.2, .interpret prompt hints⟩))

/-- What an action makes of the schema of the session, which it needs. -/
def dispatchSchema {α : Type} (s : Session) (action : Action) (call : Nat → Schema → α) :
    Except Refusal (Session × α) :=
  match s.dispatch action, s.schema? with
  | .error refusal, _ => .error refusal
  | .ok (t, token), some schema => .ok (t, call token schema)
  | .ok _, none => .error (.misplaced action s.phase)

def regenerate (s : Session) (feedback : String) : Except Refusal (Session × DraftCall) :=
  s.dispatchSchema .regenerate (fun token schema => ⟨token, .refine schema feedback⟩)

def confirm (s : Session) : Except Refusal (Session × ReportCall) := s.dispatchSchema .confirm ReportCall.mk

end Session
end Scaffold
