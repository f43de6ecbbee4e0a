import Scaffold.Interpreter.Basic
import Scaffold.Json.Document
/-!
# Web.Payload — what requests carry

Each kind of request that carries a body has a shape for it.  A body that is missing, no JSON or no object is refused
as a whole, with the place `body`; what is wrong inside has its place below that.
-/
namespace Scaffold
namespace Web

def bodyPlace : List Step := [.key "body"]

/-- **Why a body could not be used**: it could not be read at all, or it is not what is asked for. -/
inductive BodyError where
  | unreadable
  | invalid (issues : List Issue)

namespace Payload

def filled (place : List Step) (v : Json) : Checked String :=
  match v with
  | .str w => Check.text place w (fun s => if s.isEmpty then .fault place (.tooShort 1) v else .ok s)
  | _ => .fault place .notString v

def operations (place : List Step) : Json → Checked Operations
  | .arr items => (Checked.list Operation.check place 0 items).map Operations.ofList
  | v => .fault place .notList v

def prompt (m : Json.Members) : Checked (String × Hints) :=
  (fun prompt name operations => (prompt, ⟨name, operations⟩))
    <$> Check.required m bodyPlace ["prompt"] filled
    <*> Check.optional m bodyPlace Schema.entityNameKeys none Check.string?
    <*> Check.optional m bodyPlace ["operations"] {} operations

def feedback (m : Json.Members) : Checked String := Check.required m bodyPlace ["feedback"] filled

def entityName (m : Json.Members) : Checked Wording :=
  Check.required m bodyPlace Schema.entityNameKeys Check.string

def enabled (m : Json.Members) : Checked Bool := Check.required m bodyPlace ["enabled"] Check.bool

/-- A value of a kind, or null. -/
def nullable {α : Type} (check : List Step → Json → Checked α) (toJson : α → Json) (place : List Step) :
    Json → Checked Json
  | .null => .ok .null
  | v => (check place v).map toJson

def change (m : Json.Members) (name : String) (keys : List String) (check : List Step → Json → Checked Json) :
    Checked (Json.Members) :=
  Check.optional m bodyPlace keys [] (fun place v => (check place v).map (fun c => [(name, c)]))

/-- **Changes of a field**: those that are there, and null where null is given. -/
def changes (m : Json.Members) : Checked (Json.Members) :=
  let text := nullable Check.string Json.str
  let flag := nullable Check.bool Json.bool
  let type := nullable FieldType.check (fun t => .str t.name)
  (fun name label type required default indexed => name ++ label ++ type ++ required ++ default ++ indexed)
    <$> change m "name" ["name"] text
    <*> change m "label" ["label"] text
    <*> change m "type" ["type"] type
    <*> change m "required" ["required"] flag
    <*> change m "default_value" Field.defaultKeys text
    <*> change m "indexed" ["indexed"] flag

def value? (body : List Char) : Except BodyError (Option Json) :=
  if body.isEmpty then .ok none
  else
    match Json.ofBytes (Text.bytes body) with
    | .ok v => .ok (some v)
    | .error (.unreadable _ (.complaint what position)) =>
      .error (.invalid [⟨.malformedText what.text, bodyPlace ++ [.index position], .obj []⟩])
    | .error _ => .error .unreadable

def read {α : Type} (shape : Json.Members → Checked α) (body : List Char) : Except BodyError α := do
  let checked : Checked α := match ← value? body with
    | none => .fault bodyPlace .missing .null
    | some (.obj m) => shape m
    | some v => .fault bodyPlace .notAttributes v
  checked.toExcept.mapError .invalid

end Payload
end Web
end Scaffold
