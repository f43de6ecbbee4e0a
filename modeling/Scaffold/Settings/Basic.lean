import Scaffold.Check.Number
import Scaffold.Settings.Dotenv
import Scaffold.Settings.Sources
/-!
# Settings — what can be configured

A setting is taken from what is given directly, else from the environment, else from the settings file, else it has its
default.  What is given directly can also say how the sources are read.
-/
namespace Scaffold

structure Settings where
  appEnv : String := "dev"
  appName : String := "appgen"
  apiHost : String := "0.0.0.0"
  apiPort : Int := 8080
  logLevel : String := "INFO"
  interpreterUrl? : Option String := none
  interpreterTimeout : Binary64 := Binary64.ofInt 60
  threshold : Int := 8

namespace Settings

def modelName : String := "Settings"

def names : List String :=
  ["app_env", "app_name", "api_host", "api_port", "log_level", "interpreter_url", "interpreter_timeout",
   "pagination_field_threshold"]

def text (place : List Step) (v : Json) : Checked String := (Check.string place v).map Wording.shown

def text? (place : List Step) (v : Json) : Checked (Option String) :=
  (Check.string? place v).map (fun w? => w?.map Wording.shown)

def ofMembers (m : Json.Members) : Checked Settings :=
  let default : Settings := {}
  Settings.mk
    <$> Check.optional m [] ["app_env"] default.appEnv text
    <*> Check.optional m [] ["app_name"] default.appName text
    <*> Check.optional m [] ["api_host"] default.apiHost text
    <*> Check.optional m [] ["api_port"] default.apiPort Check.int
    <*> Check.optional m [] ["log_level"] default.logLevel text
    <*> Check.optional m [] ["interpreter_url"] default.interpreterUrl? text?
    <*> Check.optional m [] ["interpreter_timeout"] default.interpreterTimeout Check.float
    <*> Check.optional m [] ["pagination_field_threshold"] default.threshold Check.int

/-- **Why there are no settings**: the sources cannot be read, or a value does not fit. -/
inductive LoadError where
  | sources (e : SourceError)
  | invalid (issues : List Issue)

namespace LoadError

def message : LoadError → String
  | .sources e => e.message
  | .invalid issues => issuesText modelName issues

end LoadError

def load (given : Json.Members) (environment : Entries (List Char) (List Char)) (file : List Char) :
    Except LoadError Settings := do
  let sources ← (Sources.ofGiven given).mapError .sources
  let written := if sources.withFile then sources.settings (Dotenv.read environment file) else []
  let here := sources.settings (environment.map (fun e => (e.1, some e.2)))
  (ofMembers (Entries.merge (Entries.merge written here) (sources.given given))).toExcept.mapError .invalid

def service? (s : Settings) : Option String :=
  match s.interpreterUrl? with
  | some url => if url.isEmpty then none else some url
  | none => none

end Settings
end Scaffold
