import Scaffold.Text.Blank
/-!
# Web.Route — what there is to ask for

A path names a resource, and a method says what is done with it.  A path that a slash follows is redirected.
-/
namespace Scaffold
namespace Web

inductive Resource where
  | health
  | session
  | prompt
  | regenerate
  | confirm
  | startOver
  | revise
  | entityName
  | fields
  | field (id : String)
  | toggle (operation : String)
  | pagination
deriving DecidableEq, Repr

inductive Endpoint where
  | health
  | showSession
  | submit
  | regenerate
  | confirm
  | startOver
  | revise
  | setEntityName
  | addField
  | updateField (id : String)
  | removeField (id : String)
  | toggleOperation (operation : String)
  | setPagination
deriving DecidableEq, Repr

inductive Routing where
  | found (endpoint : Endpoint)
  | wrongMethod
  | redirected
  | unknown
deriving DecidableEq, Repr

namespace Resource

/-- The resource with given segments; an empty segment names no field and no operation. -/
def ofSegments? : List String → Option Resource
  | ["", "v1", "health"] => some .health
  | ["", "v1", "session"] => some .session
  | ["", "v1", "session", "prompt"] => some .prompt
  | ["", "v1", "session", "regenerate"] => some .regenerate
  | ["", "v1", "session", "confirm"] => some .confirm
  | ["", "v1", "session", "start-over"] => some .startOver
  | ["", "v1", "session", "revise"] => some .revise
  | ["", "v1", "session", "entity-name"] => some .entityName
  | ["", "v1", "session", "fields"] => some .fields
  | ["", "v1", "session", "fields", id] => if id.isEmpty then none else some (.field id)
  | ["", "v1", "session", "operations", op, "toggle"] => if op.isEmpty then none else some (.toggle op)
  | ["", "v1", "session", "pagination"] => some .pagination
  | _ => none

/-- **The resource at a path.**  A final line feed counts only where it is part of an id. -/
def at? (path : List Char) : Option Resource :=
  let find (l : List Char) := ofSegments? ((Text.split '/' l).map String.ofList)
  (find path).or (find (Text.dropFinalNewline path))

def endpoint? : Resource → String → Option Endpoint
  | .health, "GET" => some .health
  | .session, "GET" => some .showSession
  | .prompt, "POST" => some .submit
  | .regenerate, "POST" => some .regenerate
  | .confirm, "POST" => some .confirm
  | .startOver, "POST" => some .startOver
  | .revise, "POST" => some .revise
  | .entityName, "PUT" => some .setEntityName
  | .fields, "POST" => some .addField
  | .field id, "PATCH" => some (.updateField id)
  | .field id, "DELETE" => some (.removeField id)
  | .toggle op, "POST" => some (.toggleOperation op)
  | .pagination, "PUT" => some .setPagination
  | _, _ => none

end Resource

def withoutFinalSlashes (path : List Char) : List Char := (path.reverse.dropWhile (· = '/')).reverse

def route (method : String) (path : List Char) : Routing :=
  match Resource.at? path with
  | some r =>
    match r.endpoint? method with
    | some e => .found e
    | none => .wrongMethod
  | none => if (Resource.at? (withoutFinalSlashes path)).isSome then .redirected else .unknown

end Web
end Scaffold
