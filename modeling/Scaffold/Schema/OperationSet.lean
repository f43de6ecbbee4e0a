import Scaffold.Schema.Edit
/-!
# Schema.OperationSet — operations from a collection of names

Whatever holds names one after the other can be given; the first that is no operation is refused.
-/
namespace Scaffold

inductive OperationError where
  | shape (e : ShapeError)
  | notOperation (v : Json)

namespace OperationError

def message : OperationError → String
  | .shape e => e.message
  | .notOperation v => notOperationText v

end OperationError

namespace Operation

def ofAll : List Json → Except OperationError (List Operation)
  | [] => .ok []
  | v :: rest =>
    match ofJson? v with
    | none => .error (.notOperation v)
    | some o => (ofAll rest).map (o :: ·)

end Operation

namespace Operations

/-- **Exactly the operations named in a collection.** -/
def ofJson (v : Json) : Except OperationError Operations :=
  match v.items with
  | .error e => .error (.shape e)
  | .ok l => (Operation.ofAll l).map ofList

def ask (ops : Operations) (v : Json) : Except OperationError Bool :=
  match Operation.ofJson? v with
  | none => .error (.notOperation v)
  | some o => .ok (ops.enabled o)

end Operations
end Scaffold
