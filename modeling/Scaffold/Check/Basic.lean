import Scaffold.Json.Printer
/-!
# Check — reading values into types, with every fault collected

A value that does not have the shape asked for is refused with issues: what is wrong, where, and the value that was
found there.  `Checked` collects the issues of all parts; an object's parts are looked up under their key in the data
format and under a second name.
-/
namespace Scaffold

inductive Step where
  | key (name : String)
  | index (n : Nat)
deriving DecidableEq, Repr

inductive Fault where
  | missing
  | notString
  | notText
  | tooShort (least : Nat)
  | notBool
  | unreadableBool
  | notInt
  | unreadableInt
  | fractionalInt
  | outsizeInt
  | notFinite
  | notFloat
  | unreadableFloat
  | notLiteral (allowed : List String)
  | notMember (allowed : List String)
  | notTuple
  | notList
  | notSet
  | notModel (name : String)
  | notAttributes
  | malformedText (reason : String)
deriving DecidableEq, Repr

def alternatives : List String → String
  | [] => ""
  | [a] => displayed a
  | [a, b] => displayed a ++ " or " ++ displayed b
  | a :: rest => displayed a ++ ", " ++ alternatives rest

namespace Fault

def code : Fault → String
  | .missing => "missing"
  | .notString => "string_type"
  | .notText => "string_unicode"
  | .tooShort _ => "string_too_short"
  | .notBool => "bool_type"
  | .unreadableBool => "bool_parsing"
  | .notInt => "int_type"
  | .unreadableInt => "int_parsing"
  | .fractionalInt => "int_from_float"
  | .outsizeInt => "int_parsing_size"
  | .notFinite => "finite_number"
  | .notFloat => "float_type"
  | .unreadableFloat => "float_parsing"
  | .notLiteral _ => "literal_error"
  | .notMember _ => "enum"
  | .notTuple => "tuple_type"
  | .notList => "list_type"
  | .notSet => "set_type"
  | .notModel _ => "model_type"
  | .notAttributes => "model_attributes_type"
  | .malformedText _ => "json_invalid"

def message : Fault → String
  | .missing => "Field required"
  | .notString => "Input should be a valid string"
  | .notText => "Input should be a valid string, unable to parse raw data as a unicode string"
  | .tooShort least => s!"String should have at least {least} character" ++ (if least = 1 then "" else "s")
  | .notBool => "Input should be a valid boolean"
  | .unreadableBool => "Input should be a valid boolean, unable to interpret input"
  | .notInt => "Input should be a valid integer"
  | .unreadableInt => "Input should be a valid integer, unable to parse string as an integer"
  | .fractionalInt => "Input should be a valid integer, got a number with a fractional part"
  | .outsizeInt => "Unable to parse input string as an integer, exceeded maximum size"
  | .notFinite => "Input should be a finite number"
  | .notFloat => "Input should be a valid number"
  | .unreadableFloat => "Input should be a valid number, unable to parse string as a number"
  | .notLiteral allowed => "Input should be " ++ alternatives allowed
  | .notMember allowed => "Input should be " ++ alternatives allowed
  | .notTuple => "Input should be a valid tuple"
  | .notList => "Input should be a valid list"
  | .notSet => "Input should be a valid set"
  | .notModel name => s!"Input should be a valid dictionary or instance of {name}"
  | .notAttributes => "Input should be a valid dictionary or object to extract fields from"
  | .malformedText _ => "JSON decode error"

end Fault

/-- **A fault at a place**, with the value found there. -/
structure Issue where
  fault : Fault
  place : List Step
  input : Json

namespace Issue

def placeText (place : List Step) : String :=
  ".".intercalate (place.map (fun s => match s with
    | .key k => k
    | .index n => toString n))

/-- The two lines of an issue; without a place there is only the second. -/
def lines (i : Issue) : List String :=
  (if i.place.isEmpty then [] else [placeText i.place]) ++ [s!"  {i.fault.message} [type={i.fault.code}]"]

end Issue

/-- **The report of a refused value**: how many issues, for what, and each of them. -/
def issuesText (model : String) (issues : List Issue) : String :=
  let count := issues.length
  let errors := if count = 1 then "error" else "errors"
  "\n".intercalate (s!"{count} validation {errors} for {model}" :: issues.flatMap Issue.lines)

/-- **A value that was read, or all that is wrong with it.** -/
inductive Checked (α : Type) where
  | ok (value : α)
  | refused (issues : List Issue)

namespace Checked

variable {α β : Type}

def map (f : α → β) : Checked α → Checked β
  | .ok a => .ok (f a)
  | .refused l => .refused l

/-- Both parts, or the issues of both. -/
def ap : Checked (α → β) → Checked α → Checked β
  | .ok f, .ok a => .ok (f a)
  | .ok _, .refused l => .refused l
  | .refused l, .ok _ => .refused l
  | .refused l, .refused m => .refused (l ++ m)

instance : Applicative Checked where
  pure := .ok
  map := map
  seq f x := ap f (x ())

def fault (place : List Step) (what : Fault) (input : Json) : Checked α := .refused [⟨what, place, input⟩]

def list (check : List Step → Json → Checked α) (place : List Step) : Nat → List Json → Checked (List α)
  | _, [] => .ok []
  | n, v :: rest => (List.cons <$> check (place ++ [.index n]) v) <*> list check place (n + 1) rest

def toExcept : Checked α → Except (List Issue) α
  | .ok a => .ok a
  | .refused l => .error l

end Checked

namespace Check

def string (place : List Step) : Json → Checked Wording
  | .str w => .ok w
  | v => .fault place .notString v

def string? (place : List Step) : Json → Checked (Option Wording)
  | .null => .ok none
  | .str w => .ok (some w)
  | v => .fault place .notString v

def text {α : Type} (place : List Step) (w : Wording) (read : String → Checked α) : Checked α :=
  match w.text? with
  | some s => read s
  | none => .fault place .notText (.str w)

def boolWords : List (String × Bool) :=
  [("0", false), ("off", false), ("f", false), ("false", false), ("n", false), ("no", false), ("1", true), ("on", true),
   ("t", true), ("true", true), ("y", true), ("yes", true)]

def boolOfText? (s : String) : Option Bool := (boolWords.find? (fun w => w.1 = s.toLower)).map (·.2)

def boolOfInt? (n : Int) : Option Bool := if n = 0 then some false else if n = 1 then some true else none

/-- The integers that have a word of 64 bits with a sign. -/
def isWord (n : Int) : Bool := decide (-9223372036854775808 ≤ n) && decide (n ≤ 9223372036854775807)

/-- The integer that a number is, if it lies between the ends of the words of 64 bits with a sign. -/
def wordOf? (x : Binary64) : Option Int :=
  match x.toInt? with
  | some n => if n.natAbs < 9223372036854775808 then some n else none
  | none => none

/-- **A truth value**, also given as zero or one or as one of the words for it. -/
def bool (place : List Step) (v : Json) : Checked Bool :=
  let read : Option Bool → Checked Bool
    | some b => .ok b
    | none => .fault place .unreadableBool v
  match v with
  | .bool b => .ok b
  | .int n => if isWord n then read (boolOfInt? n) else .fault place .notBool v
  | .float x => match wordOf? x with
    | some n => read (boolOfInt? n)
    | none => .fault place .notBool v
  | .str w => text place w (fun s => read (boolOfText? s))
  | _ => .fault place .notBool v

def lookup? (members : Json.Members) : List String → Option (String × Json)
  | [] => none
  | k :: rest => match members.get? k with
    | some v => some (k, v)
    | none => lookup? members rest

variable {α : Type}

/-- **A part that may be absent**: under the first of the keys that the object has. -/
def optional (members : Json.Members) (place : List Step) (keys : List String) (absent : α)
    (check : List Step → Json → Checked α) : Checked α :=
  match lookup? members keys with
  | some (k, v) => check (place ++ [.key k]) v
  | none => .ok absent

/-- **A part that must be there**; if it is not, it is missed under its first key. -/
def required (members : Json.Members) (place : List Step) (keys : List String)
    (check : List Step → Json → Checked α) : Checked α :=
  match lookup? members keys with
  | some (k, v) => check (place ++ [.key k]) v
  | none => .fault (place ++ [.key (keys.headD "")]) .missing (.obj members)

end Check
end Scaffold
