import Scaffold.Entries
import Scaffold.Path
import Scaffold.Text.Quoted
import Scaffold.Text.Utf8
/-!
# Disk — files and directories that are made

A path is walked part by part from the root or from the working directory, and a part that leads up leads to where the
directory really lies.  Only what was made is kept: the root, the working directory and all above it are there anyway.
Whatever cannot be made is refused with the path of it, and then nothing changes.
-/
namespace Scaffold

/-- **Where a place is counted from**: the root, or a directory some levels above the working directory. -/
inductive Base where
  | root
  | above (levels : Nat)
deriving DecidableEq, Repr

/-- **A place**: the names that lead to it, the last of them first. -/
structure Place where
  base : Base
  names : List (List Char)
deriving DecidableEq, Repr

namespace Place

/-- The directory above; the root has none but itself. -/
def up : Place → Place
  | ⟨base, _ :: names⟩ => ⟨base, names⟩
  | ⟨.above levels, []⟩ => ⟨.above (levels + 1), []⟩
  | ⟨.root, []⟩ => ⟨.root, []⟩

def child (p : Place) (name : List Char) : Place := { p with names := name :: p.names }

def isBelow (p : Place) : Bool := decide (p.base = .above 0)

def path (p : Place) : String :=
  let (root, ups) : List Char × List (List Char) := match p.base with
    | .root => (['/'], [])
    | .above levels => ([], List.replicate levels ['.', '.'])
  String.ofList (Path.ofParts root (ups ++ p.names.reverse))

end Place

inductive Node where
  | directory
  | file (content : String)
deriving DecidableEq, Repr

inductive DiskFault where
  | notFound
  | taken
  | notDirectory
  | isDirectory
  | tooLong
deriving DecidableEq, Repr

namespace DiskFault

def number : DiskFault → Nat
  | .notFound => 2
  | .taken => 17
  | .notDirectory => 20
  | .isDirectory => 21
  | .tooLong => 36

def text : DiskFault → String
  | .notFound => "No such file or directory"
  | .taken => "File exists"
  | .notDirectory => "Not a directory"
  | .isDirectory => "Is a directory"
  | .tooLong => "File name too long"

end DiskFault

/-- **Why something was not made**: a fault at a path, or a path with a null character. -/
inductive DiskError where
  | fault (what : DiskFault) (path : String)
  | nullCharacter
deriving DecidableEq, Repr

namespace DiskError

def message : DiskError → String
  | .fault what path => s!"[Errno {what.number}] {what.text}: {displayed path}"
  | .nullCharacter => "embedded null byte"

end DiskError

structure Disk where
  made : Entries Place Node := []
deriving DecidableEq, Repr

namespace Disk

def maxName : Nat := 255

def maxPath : Nat := 4095

def node? (d : Disk) (p : Place) : Option Node := if p.names.isEmpty then some .directory else d.made.get? p

def put (d : Disk) (p : Place) (n : Node) : Disk := ⟨d.made.set p n⟩

def step (d : Disk) (p : Place) (part : List Char) : Except DiskFault Place :=
  if d.node? p ≠ some .directory then .error .notDirectory
  else if part = ['.', '.'] then .ok p.up
  else if maxName < (Text.bytes part).length then .error .tooLong
  else .ok (p.child part)

/-- **The place that parts lead to**, with something at each of them. -/
def walk (d : Disk) (p : Place) : List (List Char) → Except DiskFault Place
  | [] => .ok p
  | part :: rest => do
    let p ← d.step p part
    if (d.node? p).isNone then .error .notFound
    d.walk p rest

end Disk

/-- **A path by its parts**, the last of them first. -/
structure Route where
  root : List Char
  parts : List (List Char)
deriving DecidableEq, Repr

namespace Route

def ofPath (path : String) : Route := ⟨Path.root path.toList, (Path.parts path.toList).reverse⟩

def path (r : Route) : String := String.ofList (Path.ofParts r.root r.parts.reverse)

def start (r : Route) : Place := ⟨if r.root.isEmpty then .above 0 else .root, []⟩

def check (r : Route) : Except DiskError Unit :=
  if r.path.toList.contains '\x00' then .error .nullCharacter
  else if Disk.maxPath < (Text.bytes r.path.toList).length then .error (.fault .tooLong r.path)
  else .ok ()

end Route

namespace Disk

def located {α : Type} (r : Route) (x : Except DiskFault α) : Except DiskError α := x.mapError (.fault · r.path)

/-- The place of something new: its last part below the place that the others lead to. -/
def target (d : Disk) (r : Route) : Except DiskFault Place :=
  match r.parts with
  | [] => .ok r.start
  | part :: parents => do
    let p ← d.walk r.start parents.reverse
    d.step p part

def makeDirectory (d : Disk) (r : Route) : Except DiskError Disk := do
  r.check
  let p ← located r (d.target r)
  if (d.node? p).isSome then .error (.fault .taken r.path) else .ok (d.put p .directory)

def isDirectory (d : Disk) (r : Route) : Bool :=
  match r.check, d.walk r.start r.parts.reverse with
  | .ok (), .ok p => d.node? p = some .directory
  | _, _ => false

/-- Makes a directory in one that is there, unless it is there itself. -/
def ensureDirectory (d : Disk) (r : Route) : Except DiskError Disk :=
  match d.makeDirectory r with
  | .error e => if d.isDirectory r then .ok d else .error e
  | .ok d => .ok d

def ensurePath (d : Disk) (root : List Char) : List (List Char) → Except DiskError Disk
  | [] => d.ensureDirectory ⟨root, []⟩
  | part :: parents =>
    match d.ensureDirectory ⟨root, part :: parents⟩ with
    | .error (.fault .notFound _) => do
      let d ← d.ensurePath root parents
      d.ensureDirectory ⟨root, part :: parents⟩
    | r => r

/-- Writes a file in a directory that is there, over what it held before. -/
def writeFile (d : Disk) (r : Route) (content : String) : Except DiskError Disk := do
  r.check
  let p ← located r (d.target r)
  if d.node? p = some .directory then .error (.fault .isDirectory r.path) else .ok (d.put p (.file content))

def write (d : Disk) (path content : String) : Except DiskError Disk := do
  let r := Route.ofPath path
  let d ← d.ensurePath r.root (r.parts.drop 1)
  d.writeFile r content

/-- **Writes files one after another**, up to the first that cannot be written. -/
def writeAll (d : Disk) : List (String × String) → Disk × Except DiskError Unit
  | [] => (d, .ok ())
  | (path, content) :: rest =>
    match d.write path content with
    | .ok d => d.writeAll rest
    | .error e => (d, .error e)

def files (d : Disk) (wanted : Place → Bool) : List (String × String) :=
  d.made.filterMap (fun e => match e.2 with
    | .file content => if wanted e.1 then some (e.1.path, content) else none
    | .directory => none)

end Disk
end Scaffold
