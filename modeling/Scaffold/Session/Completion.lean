import Scaffold.Session.Request
/-!
# Session.Completion — how calls end

A call whose token is still the outstanding one is live: its answer takes effect.  Any other call is stale, and its
answer changes nothing.  A failed interpretation or compilation brings the session back to the step of the request with
the reason; any other fault brings it back without one.
-/
namespace Scaffold

/-- **How a report failed**: compilation was not possible, or by a fault that nobody foresaw. -/
inductive ReportFailure where
  | compilation (reason : String)
  | crash (c : Crash)
deriving DecidableEq, Repr

namespace ReportFailure

def message : ReportFailure → String
  | .compilation reason => reason
  | .crash c => c.message

end ReportFailure

namespace Session

def isLive (s : Session) (token : Nat) : Bool := s.outstanding? = some token

def applyDraft (s : Session) (action : Action) : Except TaskFailure Schema → Session
  | .ok schema => { s with outstanding? := none, phase := .mockup, schema? := some schema }
  | .error (.interpretation e) =>
    { s with
      outstanding? := none, phase := action.start, error? := some e.message,
      schema? := if action = .submit then none else s.schema? }
  | .error (.crash _) => { s with outstanding? := none, phase := action.start }

def endDraft (s : Session) (call : DraftCall) (answer : Except TaskFailure Schema) : Session :=
  if s.isLive call.token then s.applyDraft call.task.action answer else s

/-- **What the call for a draft returns**: whether its answer was applied. -/
def draftResult (s : Session) (call : DraftCall) : Except TaskFailure Schema → Except Crash Bool
  | .ok _ => .ok (s.isLive call.token)
  | .error (.interpretation _) => .ok false
  | .error (.crash c) => .error c

def compilationReason : String := "Internal error while generating artifacts"

def applyReport (s : Session) : Except ReportFailure Outcome → Session
  | .ok outcome => { s with outstanding? := none, phase := .report, outcome? := some outcome }
  | .error (.compilation _) => { s with outstanding? := none, phase := .mockup, error? := some compilationReason }
  | .error (.crash _) => { s with outstanding? := none, phase := .mockup }

def endReport (s : Session) (call : ReportCall) (answer : Except ReportFailure Outcome) : Session :=
  if s.isLive call.token then s.applyReport answer else s

/-- **What the call for a report returns**: the result if it was applied. -/
def reportResult (s : Session) (call : ReportCall) :
    Except ReportFailure Outcome → Except ReportFailure (Option Outcome)
  | .ok outcome => .ok (if s.isLive call.token then some outcome else none)
  | .error (.compilation reason) => if s.isLive call.token then .error (.compilation reason) else .ok none
  | .error (.crash c) => .error (.crash c)

end Session
end Scaffold
