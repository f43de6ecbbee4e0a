import Scaffold.Artifact.Bundle
import Scaffold.Interpreter.Basic
/-!
# Session — from a prompt through a mockup to a report

A session begins with a prompt.  While a draft is made of it the session is generating; the draft is the mockup, which
can be edited or drafted anew.  Confirming validates and compiles it, and the result is the report.  At most one request
is outstanding, and then the session is busy: it is generating or confirming.
-/
namespace Scaffold

/-- **Where a draft is asked for**: at the prompt or at the mockup. -/
inductive Origin where
  | prompt
  | mockup
deriving DecidableEq, Repr

inductive Phase where
  | prompt
  | generating (origin : Origin)
  | mockup
  | confirming
  | report
deriving DecidableEq, Repr

namespace Origin

def phase : Origin → Phase
  | .prompt => .prompt
  | .mockup => .mockup

end Origin

namespace Phase

def name : Phase → String
  | .prompt => "PROMPT"
  | .generating _ => "GENERATING"
  | .mockup => "MOCKUP"
  | .confirming => "CONFIRMING"
  | .report => "REPORT"

def origin? : Phase → Option Origin
  | .generating origin => some origin
  | _ => none

def busy : Phase → Bool
  | .generating _ | .confirming => true
  | .prompt | .mockup | .report => false

def text (p : Phase) : String :=
  match p.origin? with
  | some origin => s!"{p.name}({origin.phase.name})"
  | none => p.name

end Phase

structure Session where
  id : String
  phase : Phase := .prompt
  schema? : Option Schema := none
  outcome? : Option Outcome := none
  /-- Why the last request came to nothing. -/
  error? : Option String := none
  /-- The token of the request that is outstanding. -/
  outstanding? : Option Nat := none
  /-- How many tokens were given out. -/
  issued : Nat := 0
deriving DecidableEq, Repr

namespace Session

def idLength : Nat := 12

/-- **A new session**, with the beginning of a drawn id if none is given. -/
def start (id? : Option String) (supply : Supply) : Session × Supply :=
  match id? with
  | some id => if id.isEmpty then drawn else ({ id := id }, supply)
  | none => drawn
where
  drawn : Session × Supply :=
    let (id, supply) := supply.draw
    ({ id := String.ofList (id.toList.take idLength) }, supply)

end Session
end Scaffold
