import Scaffold.Entries
import Scaffold.Number.Binary64
import Scaffold.Wording
/-!
# Json — values of the data format

Whole numbers and others are told apart, as the text that was read does: `1` is an integer and `1.0` is not.  Objects
keep the order of their keys.  Texts and keys are wordings, as they may hold halves of pairs.
-/
namespace Scaffold

inductive Json where
  | null
  | bool (b : Bool)
  | int (n : Int)
  | float (x : Binary64)
  | str (w : Wording)
  | arr (items : List Json)
  | obj (members : List (Wording × Json))

namespace Json

instance : Inhabited Json := ⟨.null⟩

/-- **The members of an object**, in order. -/
abbrev Members := Entries Wording Json

namespace Members

def get? (m : Members) (key : Wording) : Option Json := Entries.get? key m

def set (m : Members) (key : Wording) (v : Json) : Members := Entries.set key v m

def erase (m : Members) (key : Wording) : Members := Entries.erase key m

/-- The members with one more at the end, if there is a value. -/
def also (m : Members) (key : Wording) (v? : Option Json) : Members := m ++ (v?.map (fun v => (key, v))).toList

end Members

/-- **The values that count as something**: neither null nor false, zero or empty. -/
def truthy : Json → Bool
  | .null => false
  | .bool b => b
  | .int n => n ≠ 0
  | .float x => !x.isZero
  | .str w => !w.isEmpty
  | .arr items => !items.isEmpty
  | .obj members => !members.isEmpty

def members? : Json → Option Members
  | .obj members => some members
  | _ => none

def get? (v : Json) (key : Wording) : Option Json := v.members?.bind (fun m => m.get? key)

def ofWording? : Option Wording → Json
  | none => .null
  | some w => .str w

def ofText? (s? : Option String) : Json := ofWording? (s?.map Wording.ofText)

mutual

/-- **No half of a pair is anywhere in the value.** -/
def isWhole : Json → Bool
  | .str w => w.isWhole
  | .arr items => areWhole items
  | .obj members => membersWhole members
  | _ => true

def areWhole : List Json → Bool
  | [] => true
  | v :: rest => isWhole v && areWhole rest

def membersWhole : List (Wording × Json) → Bool
  | [] => true
  | (k, v) :: rest => k.isWhole && isWhole v && membersWhole rest

end

end Json
end Scaffold
