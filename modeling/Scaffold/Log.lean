import Scaffold.Json.Printer
import Scaffold.Text.Case
/-!
# Log — what is logged

A line has a level, the logger it came from, the session and step it belongs to, and a message.  Lines below the
configured level are left out.
-/
namespace Scaffold
namespace Log

inductive Level where
  | debug
  | info
  | warning
  | error
  | critical
deriving DecidableEq, Repr

namespace Level

def severity : Level → Nat
  | .debug => 10
  | .info => 20
  | .warning => 30
  | .error => 40
  | .critical => 50

def name : Level → String
  | .debug => "DEBUG"
  | .info => "INFO"
  | .warning => "WARNING"
  | .error => "ERROR"
  | .critical => "CRITICAL"

def all : List Level := [.debug, .info, .warning, .error, .critical]

def ofSeverity? (n : Nat) : Option Level := all.find? (fun l => l.severity = n)

end Level

structure Line where
  level : Level
  logger : String
  session : String := "-"
  step : String := "-"
  message : String
deriving DecidableEq, Repr

def Line.text (l : Line) : String :=
  s!"{l.level.name} {l.logger} [session_id={l.session} step={l.step}] - {l.message}"

def info (logger message : String) : Line := { level := .info, logger := logger, message := message }

/-- The name of a logger as lines show it; the one without a name is the root of all. -/
def loggerName (name : String) : String := if name.isEmpty then "root" else name

/-- The text of a context value; `-` where there is none. -/
def contextText : Option Json → String
  | none => "-"
  | some (.str w) => w.shown
  | some v => v.display

/-- The names of levels that can be configured, and the severity from which lines are then shown. -/
def thresholds : List (String × Nat) :=
  [("NOTSET", 0), ("DEBUG", 10), ("INFO", 20), ("WARN", 30), ("WARNING", 30), ("ERROR", 40), ("CRITICAL", 50),
   ("FATAL", 50)]

structure UnknownLevel where
  name : String
deriving DecidableEq, Repr

def UnknownLevel.message (e : UnknownLevel) : String := "Unknown level: " ++ displayed e.name

/-- **The severity that a configured name asks for**, in any spelling of case. -/
def threshold (name : String) : Except UnknownLevel Nat :=
  let upper := String.ofList (Text.upper name.toList)
  match thresholds.find? (fun t => t.1 = upper) with
  | some t => .ok t.2
  | none => .error ⟨upper⟩

/-- The level that a name stands for in a record; `NOTSET` is none. -/
def levelOf? (name : String) : Option Level :=
  (thresholds.find? (fun t => t.1 = name)).bind (fun t => Level.ofSeverity? t.2)

def shown (severity : Nat) (lines : List Line) : List Line :=
  lines.filter (fun l => decide (severity ≤ l.level.severity))

end Log
end Scaffold
