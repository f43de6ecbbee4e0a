import Scaffold.Session.Request
import Scaffold.Schema.Edit
/-!
# Session.Edit — what takes effect at once

Starting over is always possible and abandons whatever is outstanding.  A report with errors can be revised, which
brings the mockup back.  The mockup can be edited.
-/
namespace Scaffold

inductive MockupError where
  | refused (r : Refusal)
  | edit (e : EditError)

namespace MockupError

def message : MockupError → String
  | .refused r => r.message
  | .edit e => e.message

end MockupError

namespace Session

def startOver (s : Session) : Session := { id := s.id, issued := s.issued }

def revise (s : Session) : Except Refusal Session :=
  if s.phase ≠ .report then .error (.misplacedRevision s.phase)
  else if s.outcome?.any Outcome.success then .error .finalReport
  else .ok { s with outcome? := none, phase := .mockup }

/-- The operands of changing a field of the mockup, and of any edit of it. -/
def operands : List Operands :=
  [⟨"WorkflowController.update_field", ["self", "field_id"]⟩, ⟨"WorkflowController._edit", ["fn"]⟩]

def checkOperands : Edit → Except MockupError Unit
  | .updateField _ changes => (operands.forM (fun o => o.check changes)).mapError .edit
  | _ => .ok ()

def editMockup (s : Session) (supply : Supply) (e : Edit) : Except MockupError (Session × Supply) :=
  if s.phase.busy then .error (.refused (.busyEdit s.phase))
  else
    match s.phase, s.schema? with
    | .mockup, some schema =>
      match schema.apply supply e with
      | .ok (schema, supply) => .ok ({ s with schema? := some schema }, supply)
      | .error e => .error (.edit e)
    | phase, _ => .error (.refused (.misplacedEdit phase))

/-- **The mockup after an edit**, and the supply of ids.  The names of the changes are looked at before the step. -/
def edit (s : Session) (supply : Supply) (e : Edit) : Except MockupError (Session × Supply) := do
  checkOperands e
  s.editMockup supply e

end Session
end Scaffold
