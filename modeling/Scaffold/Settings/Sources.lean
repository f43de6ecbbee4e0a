import Scaffold.Path
import Scaffold.Schema.Create
/-!
# Settings.Sources — how the sources of settings are read

The environment and the settings file hold names with values.  Names are compared in any spelling of case.  What is
given directly can say otherwise: what names begin with, that their case counts, that empty values do not count, which
value stands for none, and whether there is a file.
-/
namespace Scaffold
namespace Settings

/-- **Why the sources of settings cannot be read**: names cannot begin with what is given, or something else stands
where paths should. -/
inductive SourceError where
  | noLength (kind : String)
  | noText (kind : String)
  | noPaths (e : ShapeError)
  | noPath (kind : String)
deriving DecidableEq, Repr

namespace SourceError

def message : SourceError → String
  | .noLength kind => s!"object of type '{kind}' has no len()"
  | .noText "list" => "can only concatenate list (not \"str\") to list"
  | .noText kind => s!"unsupported operand type(s) for +: '{kind}' and 'str'"
  | .noPaths e => e.message
  | .noPath kind => s!"expected str, bytes or os.PathLike object, not {kind}"

end SourceError

structure Sources where
  /-- What names in the environment and in the file begin with. -/
  lead : List Char := []
  exactCase : Bool := false
  ignoreEmpty : Bool := false
  /-- The value that stands for none. -/
  nullWord? : Option String := none
  withFile : Bool := true
deriving DecidableEq, Repr

namespace Sources

def fileName : String := ".env"

/-- **The paths that a value names**, one by itself or several. -/
def paths : Json → Except SourceError (List String)
  | .null => .ok []
  | .str w => .ok [w.shown]
  | v => do
    let items ← v.items.mapError .noPaths
    items.mapM (fun x => match x with
      | .str w => .ok w.shown
      | x => .error (.noPath x.kindName))

/-- What is given under a name; null is as good as nothing. -/
def given? (given : Json.Members) (name : Wording) : Option Json :=
  match given.get? name with
  | some .null => none
  | found => found

def givenText? (given : Json.Members) (name : Wording) : Option String :=
  match given.get? name with
  | some (.str w) => some w.shown
  | _ => none

def givenFlag (given : Json.Members) (name : Wording) : Bool := (given.get? name).any Json.truthy

def measured (v : Json) : Except SourceError Json :=
  if v.items?.isSome then .ok v else .error (.noLength v.kindName)

def leadOf : Json → Except SourceError (List Char)
  | .str w => .ok w.shown.toList
  | v => .error (.noText v.kindName)

/-- **How the sources are read**, by what is given directly.  Whether names can begin with something is seen after the
settings file was looked for, and the directories of secrets come last; no setting is there. -/
def ofGiven (given : Json.Members) : Except SourceError Sources := do
  let lead ← measured ((given? given "_env_prefix").getD (.str ""))
  let files ← paths ((given.get? "_env_file").getD (.str fileName))
  let lead ← leadOf lead
  let _ ← paths ((given.get? "_secrets_dir").getD .null)
  .ok { lead := lead, exactCase := givenFlag given "_case_sensitive",
        ignoreEmpty := givenFlag given "_env_ignore_empty", nullWord? := givenText? given "_env_parse_none_str",
        withFile := files.any (fun path => Path.shown path = fileName) }

def spelled (s : Sources) (name : List Char) : List Char := if s.exactCase then name else Text.lower name

def named {α : Type} (s : Sources) (l : Entries (List Char) α) : Entries (List Char) α :=
  Entries.ofPairs (l.map (fun e => (s.spelled e.1, e.2)))

def value (s : Sources) (l : List Char) : Json :=
  let text := String.ofList l
  if s.nullWord? = some text then .null else .str text

/-- **The settings among the names of a source**; a name without a value is none. -/
def settings (s : Sources) (l : Entries (List Char) (Option (List Char))) : Json.Members :=
  let lead := s.spelled s.lead
  (s.named (l.filter (fun e => !(s.ignoreEmpty && e.2 = some [])))).filterMap (fun e =>
    if lead.isPrefixOf e.1 then e.2.map (fun v => (String.ofList (e.1.drop lead.length), s.value v)) else none)

/-- **The settings that are given directly**; of several spellings of a name the first counts. -/
def given (s : Sources) (l : Json.Members) : Json.Members :=
  if s.exactCase then l else Entries.ofPairs (l.reverse.map (fun e => (e.1.lower, e.2)))

end Sources
end Settings
end Scaffold
