import Scaffold.Entries
import Scaffold.Text.Blank
import Scaffold.Text.Case
import Scaffold.Text.Digit
import Scaffold.Wording
/-!
# Naming — the names that artifacts use

An entity is named in words; the artifacts write it in snake case, in kebab case or in Pascal case, and its table in the
plural.  A field keeps its name as column and as key of the data; as an attribute of a class it may need another one,
`attributeNames` chooses these for a whole list of fields.
-/
namespace Scaffold
namespace Naming

open Text

/-- **A small letter run after a capital starts a word**: an underscore goes before the capital unless the text or a
line begins there.  In a run the small letters are passed over, the next word may not begin inside it. -/
def breakWords : (inRun : Bool) → List Char → List Char
  | inRun, c :: u :: l :: rest =>
    if inRun && isLowerAscii c then c :: breakWords true (u :: l :: rest)
    else if c ≠ '\n' && isUpperAscii u && isLowerAscii l then c :: '_' :: u :: l :: breakWords true rest
    else c :: breakWords false (u :: l :: rest)
  | _, short => short

/-- **A capital after a small letter or a digit starts a word.** -/
def breakHumps : List Char → List Char
  | a :: b :: rest =>
    if (isLowerAscii a || isDigitAscii a) && isUpperAscii b then a :: '_' :: breakHumps (b :: rest)
    else a :: breakHumps (b :: rest)
  | short => short

def snake (l : List Char) : List Char := lower (breakHumps (breakWords false l))

def kebab (l : List Char) : List Char := replace '_' '-' (snake l)

/-- **Pascal case**: the words between underscores, each with a capital.  A text of underscores alone stays. -/
def pascal (l : List Char) : List Char :=
  if l.contains '_' then
    match ((words '_' l).map capitalize).flatten with
    | [] => l
    | p => p
  else capitalize l

def vowels : List Char := ['a', 'e', 'i', 'o', 'u']

/-- **The plural of a word**: `es` after a sibilant, `ies` for a `y` after a consonant, otherwise `s`. -/
def plural (w : List Char) : List Char :=
  match w.reverse with
  | 's' :: _ | 'x' :: _ | 'z' :: _ | 'h' :: 'c' :: _ | 'h' :: 's' :: _ => w ++ ['e', 's']
  | 'y' :: c :: stem => if vowels.contains c then w ++ ['s'] else (c :: stem).reverse ++ ['i', 'e', 's']
  | _ => w ++ ['s']

def changeLast (f : List Char → List Char) : List (List Char) → List (List Char)
  | [] => []
  | [w] => [f w]
  | w :: ws => w :: changeLast f ws

/-- **The name of the table**: the words of the entity in snake case, the last one in the plural. -/
def table (entity : List Char) : List Char :=
  match words '_' (snake entity) with
  | [] => plural (snake entity)
  | ws => join ['_'] (changeLast plural ws)

def path (entity : List Char) : List Char := replace '_' '-' (table entity)

def keywords : List String :=
  ["False", "None", "True", "and", "as", "assert", "async", "await", "break", "class", "continue", "def", "del", "elif",
   "else", "except", "finally", "for", "from", "global", "if", "import", "in", "is", "lambda", "nonlocal", "not", "or",
   "pass", "raise", "return", "try", "while", "with", "yield"]

/-- The attributes that the generated classes have already. -/
def reserved : List String := ["metadata", "registry", "model_config", "to_dict"]

/-- **An attribute for a name**: an underscore is added to a word that is taken, and leading underscores are moved to
the end, or kept behind an `f` where only digits would lead. -/
def attributeName (name : List Char) : List Char :=
  match name with
  | '_' :: _ =>
    match name.dropWhile (· == '_') with
    | [] => 'f' :: name
    | c :: rest => if isDigit c then 'f' :: name else c :: rest ++ ['_']
  | _ => if (String.ofList name) ∈ keywords ++ reserved then name ++ ['_'] else name

/-- **The first of `a`, `a_`, `a__`, … that is not taken**, looking at most `n` underscores ahead. -/
def firstFree (taken : List (List Char)) : Nat → List Char → List Char
  | 0, a => a
  | n + 1, a => if a ∈ taken then firstFree taken n (a ++ ['_']) else a

def identity : List Char := ['i', 'd']

/-- The wording is the name of the identity column, in any spelling of case. -/
def namesIdentity (w : Wording) : Bool := w.lower = String.ofList identity

/-- The attributes chosen so far, and the names that none of the next may be. -/
structure Choice where
  chosen : Entries (List Char) (List Char)
  taken : List (List Char)

def choose (s : Choice) (name : List Char) : Choice :=
  let wanted := attributeName name
  if wanted = name then { s with chosen := s.chosen.set name name }
  else
    let a := firstFree s.taken s.taken.length wanted
    { chosen := s.chosen.set name a, taken := a :: s.taken }

/-- **The attribute of each name**, in the order of the names.  Neither the identity column, nor another field's name,
nor an attribute chosen before is chosen for a name that needs a new one. -/
def attributeNames (names : List (List Char)) : Entries (List Char) (List Char) :=
  (names.foldl choose ⟨[], identity :: names⟩).chosen

/-- **A label for a name**: its words with capitals, apart by spaces. -/
def label (name : Wording) : Wording :=
  match words (.char '_') (replace (.char '-') (.char '_') name.signs) with
  | [] => name
  | [w] => if namesIdentity ⟨w⟩ then "ID" else ⟨Wording.capitalized w⟩
  | ws => ⟨join [.char ' '] (ws.map Wording.capitalized)⟩

def isIdentifierStart (c : Char) : Bool := isUpperAscii c || isLowerAscii c || c = '_'

def isIdentifierPart (c : Char) : Bool := isIdentifierStart c || isDigitAscii c

/-- **A plain identifier**: an ASCII letter or underscore, then letters, digits and underscores. -/
def isPlainIdentifier : List Char → Bool
  | [] => false
  | c :: rest => isIdentifierStart c && rest.all isIdentifierPart

/-- **A plain identifier, or one with a final line feed.** -/
def isIdentifier (l : List Char) : Bool := isPlainIdentifier (dropFinalNewline l)

end Naming
end Scaffold
