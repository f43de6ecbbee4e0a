import Scaffold.Session.Edit
import Scaffold.Web.Payload
/-!
# Web.Response — what is answered

Successful requests are answered with the session as it then is.  A refusal by the step is a conflict, an unknown field
is not found, and what does not fit is listed issue by issue.  An answer is JSON; a number that JSON does not have and
half of a pair make it impossible.
-/
namespace Scaffold

namespace Fault

def context? : Fault → Option Json
  | .notLiteral allowed | .notMember allowed => some (.obj [("expected", .str (alternatives allowed))])
  | .tooShort least => some (.obj [("min_length", .int least)])
  | .malformedText reason => some (.obj [("error", .str reason)])
  | _ => none

end Fault

namespace Step

def toJson : Step → Json
  | .key name => .str name
  | .index n => .int n

end Step

namespace Issue

def toJson (i : Issue) : Json :=
  .obj [("type", .str i.fault.code), ("loc", .arr (i.place.map Step.toJson)), ("msg", .str i.fault.message),
    ("input", i.input)]

def toJsonWithContext (i : Issue) : Json :=
  match i.toJson with
  | .obj m => .obj (Json.Members.also m "ctx" i.fault.context?)
  | v => v

end Issue

namespace Json

mutual

def isFinite : Json → Bool
  | .float (.infinite _) | .float .nan => false
  | .arr items => areFinite items
  | .obj members => membersFinite members
  | _ => true

def areFinite : List Json → Bool
  | [] => true
  | v :: rest => isFinite v && areFinite rest

def membersFinite : List (Wording × Json) → Bool
  | [] => true
  | (_, v) :: rest => isFinite v && membersFinite rest

end

def isReserved (key : Wording) : Bool := (Wording.ofText "_sa").signs.isPrefixOf key.signs

mutual

/-- **The value without members under reserved keys**, wherever they are. -/
def withoutReserved : Json → Json
  | .arr items => .arr (itemsWithoutReserved items)
  | .obj members => .obj (membersWithoutReserved members)
  | v => v

def itemsWithoutReserved : List Json → List Json
  | [] => []
  | v :: rest => withoutReserved v :: itemsWithoutReserved rest

def membersWithoutReserved : List (Wording × Json) → List (Wording × Json)
  | [] => []
  | (k, v) :: rest =>
    if isReserved k then membersWithoutReserved rest else (k, withoutReserved v) :: membersWithoutReserved rest

end

end Json

namespace Session

/-- The paths of the artifacts, once they were made. -/
def paths? (s : Session) : Option (Entries String String) :=
  match s.outcome?, s.schema? with
  | some o, some schema => if o.success then some schema.paths else none
  | _, _ => none

def toJson (s : Session) : Json :=
  .obj [("sessionId", .str s.id), ("step", .str s.phase.name),
    ("origin", Json.ofText? (s.phase.origin?.map (fun o => o.phase.name))),
    ("schema", (s.schema?.map Schema.toJson).getD .null), ("result", (s.outcome?.map Outcome.toJson).getD .null),
    ("error", Json.ofText? s.error?),
    ("paths", (s.paths?.map (fun l => .obj (l.map (fun p => (p.1, .str p.2))))).getD .null),
    ("status", .str (if s.phase.busy then "busy" else "idle"))]

end Session

namespace Web

inductive Body where
  | json (v : Json)
  | text (s : String)

structure Response where
  status : Nat
  body : Body

namespace Response

def failed : Response := ⟨500, .text "Internal Server Error"⟩

/-- An answer that holds a value, if it can be written. -/
def ofJson (status : Nat) (v : Json) : Response := if v.isFinite && v.isWhole then ⟨status, .json v⟩ else failed

def detail (status : Nat) (text : String) : Response := ofJson status (.obj [("detail", .str text)])

def notFound : Response := detail 404 "Not Found"

def wrongMethod : Response := detail 405 "Method Not Allowed"

def redirect : Response := ⟨307, .text ""⟩

/-- **The answer to a request that does not have the right shape**; reserved members of what was found are not
shown. -/
def invalidRequest (issues : List Issue) : Response :=
  ofJson 422 (Json.withoutReserved (.obj [("detail", .arr (issues.map Issue.toJsonWithContext))]))

def invalidEdit (issues : List Issue) : Response := ofJson 422 (.obj [("detail", .arr (issues.map Issue.toJson))])

def conflict (r : Refusal) : Response := detail 409 r.message

def session (s : Session) : Response := ofJson 200 s.toJson

def ofBodyError : BodyError → Response
  | .unreadable => detail 400 "There was an error parsing the body"
  | .invalid issues => invalidRequest issues

def ofMockupError : MockupError → Response
  | .refused r => conflict r
  | .edit (.invalidField issues) => invalidEdit issues
  | .edit (.fieldNotFound id) => detail 404 (EditError.fieldNotFound id).message
  | .edit (.operandTaken ..) | .edit (.notOperation _) => failed

end Response
end Web
end Scaffold
