import Scaffold.Text.Blank
import Scaffold.Text.Digit
/-!
# CommandLine.Arguments — the words of the command line

One word is the prompt; the rest are options.  An option may be shortened as long as only one begins like that, and its
value is the next word or stands behind an equals sign.  Negative numbers and words with a space are never options, and
after `--` nothing is.
-/
namespace Scaffold
namespace CommandLine

structure Arguments where
  prompt : String
  entityName? : Option String := none
  operations : String := "create,read,update,delete"
  paginate : Bool := false
  out : String := "generated"
deriving DecidableEq, Repr

/-- **Why there is nothing to run**: the words make no sense, or only help was asked for. -/
inductive Stop where
  | usage
  | help
deriving DecidableEq, Repr

inductive Flag where
  | help
  | entityName
  | operations
  | paginate
  | out
deriving DecidableEq, Repr

namespace Flag

def names : List (List Char × Flag) :=
  [("-h".toList, .help), ("--help".toList, .help), ("--entity-name".toList, .entityName),
   ("--operations".toList, .operations), ("--paginate".toList, .paginate), ("--out".toList, .out)]

def named? (name : List Char) : Option Flag := (names.find? (fun n => n.1 = name)).map (·.2)

def beginning (start : List Char) : List Flag := (names.filter (fun n => start.isPrefixOf n.1)).map (·.2)

end Flag

/-- **A word of the command line**: an option may have a value attached, and is short if it begins with one dash. -/
inductive Word where
  | plain (s : String)
  | marker
  | flag (flag : Flag) (short : Bool) (attached? : Option String)
  | unknown
deriving DecidableEq, Repr

/-- A number with a minus sign; one final line feed is passed over. -/
def isNegativeNumber : List Char → Bool
  | '-' :: rest =>
    let rest := Text.dropFinalNewline rest
    match rest.dropWhile Text.isDecimal with
    | [] => !rest.isEmpty
    | '.' :: fraction => !fraction.isEmpty && fraction.all Text.isDecimal
    | _ => false
  | _ => false

def cut (l : List Char) : List Char × Option String :=
  (l.takeWhile (· ≠ '='), match l.dropWhile (· ≠ '=') with
    | _ :: rest => some (String.ofList rest)
    | [] => none)

/-- The options that a word may stand for which is not exactly the name of one. -/
def candidates (l : List Char) : List Word :=
  let (name, attached?) := cut l
  match attached?, Flag.named? name, l with
  | some v, some f, '-' :: second :: _ => [.flag f (second ≠ '-') (some v)]
  | _, _, '-' :: '-' :: _ => (Flag.beginning name).map (fun f => .flag f false attached?)
  | _, _, a :: b :: rest => ((Flag.named? [a, b]).map (fun f => .flag f true (some (String.ofList rest)))).toList
  | _, _, _ => []

/-- **The word that a text is**; it is refused if it may stand for more than one option. -/
def word (s : String) : Except Stop Word :=
  match s.toList with
  | '-' :: second :: rest =>
    let l := '-' :: second :: rest
    match Flag.named? l with
    | some f => .ok (.flag f (second ≠ '-') none)
    | none =>
      match candidates l with
      | [w] => .ok w
      | _ :: _ => .error .usage
      | [] => .ok (if isNegativeNumber l || l.contains ' ' then .plain s else .unknown)
  | _ => .ok (.plain s)

/-- **The words**; after the first `--` all are plain. -/
def words : List String → Except Stop (List Word)
  | [] => .ok []
  | s :: rest =>
    if s = "--" then .ok (.marker :: rest.map .plain)
    else do
      let w ← word s
      let l ← words rest
      .ok (w :: l)

structure Reading where
  prompt? : Option String := none
  entityName? : Option String := none
  operations? : Option String := none
  paginate : Bool := false
  out? : Option String := none
  /-- The word before was the prompt. -/
  atPrompt : Bool := false
  excess : Bool := false

namespace Reading

def put? (r : Reading) (v : String) : Flag → Option Reading
  | .entityName => some { r with entityName? := some v, atPrompt := false }
  | .operations => some { r with operations? := some v, atPrompt := false }
  | .out => some { r with out? := some v, atPrompt := false }
  | .help | .paginate => none

/-- A plain word is the prompt, unless there is one. -/
def plain (r : Reading) (s : String) : Reading :=
  match r.prompt? with
  | none => { r with prompt? := some s, atPrompt := true }
  | some _ => { r with atPrompt := false, excess := true }

/-- The marker is passed over next to the prompt. -/
def marker (r : Reading) : Reading :=
  { r with atPrompt := false, excess := r.excess || (r.prompt?.isSome && !r.atPrompt) }

def arguments (r : Reading) : Except Stop Arguments :=
  match r.prompt? with
  | some prompt =>
    if r.excess then .error .usage
    else
      let default : Arguments := { prompt := prompt }
      .ok { prompt := prompt, entityName? := r.entityName?, operations := r.operations?.getD default.operations,
            paginate := r.paginate, out := r.out?.getD default.out }
  | none => .error .usage

end Reading

/-- What an option with an attached value comes to: a value, or one more short option for help. -/
def attached (r : Reading) (f : Flag) (short : Bool) (v : String) : Except Stop Reading :=
  match r.put? v f with
  | some r => .ok r
  | none =>
    if f = .help && short && !v.isEmpty && v.toList.all (· = 'h') then .error .help else .error .usage

def consume (r : Reading) : List Word → Except Stop Reading
  | [] => .ok r
  | .plain s :: rest => consume (r.plain s) rest
  | .marker :: rest => consume r.marker rest
  | .unknown :: rest => consume { r with atPrompt := false, excess := true } rest
  | .flag .help _ none :: _ => .error .help
  | .flag .paginate _ none :: rest => consume { r with paginate := true, atPrompt := false } rest
  | .flag f _ none :: .plain v :: rest =>
    match r.put? v f with
    | some r => consume r rest
    | none => .error .usage
  | .flag _ _ none :: _ => .error .usage
  | .flag f short (some v) :: rest =>
    match attached r f short v with
    | .ok r => consume r rest
    | .error stop => .error stop

def parse (arguments : List String) : Except Stop Arguments := do
  let l ← words arguments
  (← consume {} l).arguments

end CommandLine
end Scaffold
