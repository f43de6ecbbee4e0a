import Scaffold.Interpreter.Basic
import Scaffold.Url.Reader
/-!
# Interpreter.Remote — the interpretation service

A task is posted to the service as JSON.  The service may be out of reach, answer with a status that is no success, with
something that is no JSON or holds no schema, or with a schema whose parts do not fit; each is a reason of its own.  No
answer counts if the address was a relative one.  What passes is handed on as it came: ids and labels are not the
service's to give.
-/
namespace Scaffold
namespace Remote

/-- **What comes back from the service**: nothing but a reason, or a status and a text. -/
inductive Reply where
  | failed (reason : String)
  | answered (status : Int) (body : List Char)
deriving DecidableEq, Repr

structure Request where
  url : Url
  body : Json

/-- **Why there is no request**: the address is none, the body cannot be written, or nothing can be sent to the host. -/
inductive RequestError where
  | address (e : UrlError)
  | body (e : Text.EncodeError)
  | host (e : Url.HostError)
deriving DecidableEq, Repr

def action : Task → String
  | .interpret .. => "interpret"
  | .refine .. => "refine"

def payload : Task → Json
  | .interpret prompt hints =>
    .obj [("prompt", .str prompt),
      ("params", .obj [("entityName", Json.ofWording? hints.entityName?),
        ("operations", .arr (hints.operationNames.map (fun (name : String) => .str name)))])]
  | .refine schema feedback => .obj [("schema", schema.toJson), ("feedback", .str feedback)]

def withoutSlashes (baseUrl : String) : List Char := (baseUrl.toList.reverse.dropWhile (· = '/')).reverse

def address (baseUrl : String) (task : Task) : Except UrlError Url :=
  Url.resolve {} (String.ofList (withoutSlashes baseUrl) ++ "/" ++ action task)

def request (baseUrl : String) (task : Task) : Except RequestError Request := do
  let url ← (address baseUrl task).mapError .address
  let body := payload task
  match Text.encodeError? body.plain with
  | some e => .error (.body e)
  | none =>
    url.checkHost.mapError .host
    .ok ⟨url, body⟩

def isSuccess (status : Int) : Bool := decide (200 ≤ status) && decide (status ≤ 299)

/-- The schema in an answer: under its own key, or the whole answer. -/
def schemaOf (body : Json) : Option Json.Members :=
  match body with
  | .obj _ => ((body.get? "schema").getD body).members?
  | _ => none

/-- The records among the fields of a schema, each with an id if it has none. -/
def fieldRecords (m : Json.Members) : Except ShapeError (List Json) :=
  (Schema.rawFields m).map (fun l => l.filterMap (fun v => v.members?.map (fun f =>
    .obj (Entries.merge [("id", .str "-")] f))))

/-- **The shape check**: the schema with the records among its fields is one. -/
def fits (m : Json.Members) : Except ShapeError (Checked Schema) :=
  (fieldRecords m).map (fun l => Schema.ofMembers (m.set "fields" (.arr l)))

def answer (task : Task) (q : Request) (reply : Reply) : TaskAnswer :=
  match reply with
  | .failed reason => .error (.interpretation (.unreachable reason))
  | .answered status text =>
    if !q.url.isAbsolute then .error (.interpretation (.relativeAddress q.url.text))
    else if !isSuccess status then .error (.interpretation (.status status (action task)))
    else
      match Json.ofBytes (Text.bytes text) with
      | .error (.unreadable _ (.tooDeep container)) => .error (.crash (.tooDeep container))
      | .error e => .error (.interpretation (.notJson e.message))
      | .ok body =>
        match schemaOf body with
        | none => .error (.interpretation .noSchema)
        | some m =>
          match fits m with
          | .error e => .error (.crash (.shape e))
          | .ok (.refused issues) => .error (.interpretation (.malformed issues))
          | .ok (.ok _) => .ok (.data (.obj m))

def log (baseUrl : String) (task : Task) : List Log.Line :=
  let what := match task with
    | .interpret .. => "interpretation"
    | .refine .. => "refinement"
  [Log.info "appgen.interpreters.http" s!"Requesting {what} from {baseUrl}"]

/-- **The interpreter at an address**, where `reply` is what comes back for a request. -/
def interpreter (baseUrl : String) (reply : Request → Reply) : Interpreter where
  answer task :=
    match request baseUrl task with
    | .ok q => answer task q (reply q)
    | .error (.address e) => .error (.crash (.address e))
    | .error (.body e) => .error (.interpretation (.unwritable e))
    | .error (.host e) => .error (.interpretation (.badHost e))
  log := log baseUrl

end Remote
end Scaffold
