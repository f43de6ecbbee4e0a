import Scaffold.Schema.Read
/-!
# Schema.Create — schemas from interpretation results

An interpretation answers with a schema or with data in the shape of one.  Whatever ids the answer carries are put
aside: every field gets a fresh one from the supply, in order, before the rest is looked at.  A field without a label
gets one made from its name.

The data may be given as an object or as a list of pairs, field by field; what is neither is refused as it stands.
-/
namespace Scaffold

/-- **A supply of ids**: how many were drawn. -/
structure Supply where
  drawn : Nat := 0
deriving DecidableEq, Repr

namespace Supply

/-- The id with a number: its hexadecimal digits, filled up to 32. -/
def idOf (n : Nat) : String :=
  let digits := Nat.toDigits 16 n
  String.ofList (List.replicate (32 - digits.length) '0' ++ digits)

def draw (s : Supply) : String × Supply := (idOf (s.drawn + 1), ⟨s.drawn + 1⟩)

end Supply

inductive ShapeError where
  | notIterable (kind : String)
  | notSequence (index : Nat)
  | notPair (index length : Nat)
  | unhashable (kind : String)
deriving DecidableEq, Repr

namespace ShapeError

def message : ShapeError → String
  | .notIterable kind => s!"'{kind}' object is not iterable"
  | .notSequence index => s!"cannot convert dictionary update sequence element #{index} to a sequence"
  | .notPair index length => s!"dictionary update sequence element #{index} has length {length}; 2 is required"
  | .unhashable kind => s!"unhashable type: '{kind}'"

end ShapeError

namespace Json

def kindName : Json → String
  | .null => "NoneType"
  | .bool _ => "bool"
  | .int _ => "int"
  | .float _ => "float"
  | .str _ => "str"
  | .arr _ => "list"
  | .obj _ => "dict"

/-- **What a value holds one after the other**: the elements of a list, the signs of a text, the keys of an
object. -/
def items? : Json → Option (List Json)
  | .arr items => some items
  | .str w => some (w.signs.map (fun x => .str ⟨[x]⟩))
  | .obj members => some (members.map (fun e => .str e.1))
  | _ => none

def items (v : Json) : Except ShapeError (List Json) :=
  match v.items? with
  | some l => .ok l
  | none => .error (.notIterable v.kindName)

/-- The members that pairs make, after those made before.  A key that is no text is passed over, a list or an object
cannot be a key. -/
def pairMembers (made : Json.Members) : Nat → List Json → Except ShapeError (Json.Members)
  | _, [] => .ok made
  | n, e :: rest =>
    match e.items? with
    | none => .error (.notSequence n)
    | some [.str k, v] => pairMembers (made.set k v) (n + 1) rest
    | some [.arr _, _] => .error (.unhashable "list")
    | some [.obj _, _] => .error (.unhashable "dict")
    | some [_, _] => pairMembers made (n + 1) rest
    | some l => .error (.notPair n l.length)

/-- **The record that a value is**: an object, or pairs of a key and a value. -/
def record : Json → Except ShapeError (Json.Members)
  | .obj members => .ok members
  | v => v.items.bind (pairMembers [] 0)

end Json

/-- **Why no schema could be made**: a value of the wrong shape, or data that is no schema. -/
inductive CreateError where
  | shape (e : ShapeError)
  | invalid (issues : List Issue)

inductive Interpretation where
  | schema (s : Schema)
  | data (v : Json)

namespace Schema

def labelOf : Option Json → Wording
  | none => ""
  | some (.str w) => Naming.label w
  | some v => Naming.label v.display

/-- The members of a field with a given id, and a label if there was none. -/
def completed (id : Wording) (m : Json.Members) : Json.Members :=
  let m := m.set "id" (.str id)
  match m.get? "label" with
  | some v => if v.truthy then m else m.set "label" (.str (labelOf (m.get? "name")))
  | none => m.set "label" (.str (labelOf (m.get? "name")))

/-- **The records of fields with fresh ids**, and the supply after them; it is also known after a refusal. -/
def completedAll (supply : Supply) : List Json → Except ShapeError (List Json) × Supply
  | [] => (.ok [], supply)
  | v :: rest =>
    match v.record with
    | .error e => (.error e, supply)
    | .ok m =>
      let (id, supply) := supply.draw
      match completedAll supply rest with
      | (.error e, supply) => (.error e, supply)
      | (.ok l, supply) => (.ok (.obj (completed id m) :: l), supply)

/-- The values of the fields of a record; none if there is nothing under `fields`. -/
def rawFields (m : Json.Members) : Except ShapeError (List Json) :=
  match m.get? "fields" with
  | none => .ok []
  | some v => if v.truthy then v.items else .ok []

/-- **A schema from data**, drawing an id for each field. -/
def createFromData (supply : Supply) (v : Json) : Except CreateError Schema × Supply :=
  match v.record with
  | .error e => (.error (.shape e), supply)
  | .ok m =>
    match rawFields m with
    | .error e => (.error (.shape e), supply)
    | .ok raw =>
      match completedAll supply raw with
      | (.error e, supply) => (.error (.shape e), supply)
      | (.ok fields, supply) =>
        match ofMembers (m.set "fields" (.arr fields)) with
        | .ok s => (.ok s, supply)
        | .refused issues => (.error (.invalid issues), supply)

def renewFields (supply : Supply) : List Field → List Field × Supply
  | [] => ([], supply)
  | f :: rest =>
    let (id, supply) := supply.draw
    let label := if f.label.isEmpty then Naming.label f.name else f.label
    let (l, supply) := renewFields supply rest
    ({ f with id := id, label := label } :: l, supply)

/-- **The same schema with fresh ids**, and labels where there were none. -/
def renew (supply : Supply) (s : Schema) : Schema × Supply :=
  let (fields, supply) := renewFields supply s.fields
  ({ s with fields := fields }, supply)

def create (supply : Supply) : Interpretation → Except CreateError Schema × Supply
  | .schema s => let (s, supply) := renew supply s; (.ok s, supply)
  | .data v => createFromData supply v

end Schema

end Scaffold
