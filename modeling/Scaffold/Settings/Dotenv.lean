import Scaffold.Entries
import Scaffold.Text.Blank
import Scaffold.Text.Utf8
/-!
# Settings.Dotenv — settings in a file

One setting a line, `KEY=value`, with an optional `export` before it; blank lines and comments are passed over, and so
is a line that is no setting.  A value may stand in quotes, in which a few escapes are read; one without quotes ends
before a comment.  A byte order mark may stand at the head of the file.  `${NAME}` and `${NAME:-else}` in a value stand
for another setting.
-/
namespace Scaffold
namespace Dotenv

open Text

def withLineFeeds : List Char → List Char
  | '\r' :: '\n' :: rest => '\n' :: withLineFeeds rest
  | '\r' :: rest => '\n' :: withLineFeeds rest
  | c :: rest => c :: withLineFeeds rest
  | [] => []

def isInlineBlank (c : Char) : Bool := isBlank c && c ≠ '\n'

def dropLine (l : List Char) : List Char := (l.dropWhile (· ≠ '\n')).drop 1

/-- The characters up to a closing quote, and what follows it.  A character after a backslash closes nothing. -/
def quotedBody (quote : Char) : List Char → Option (List Char × List Char)
  | [] | ['\\'] => none
  | '\\' :: c :: rest => (quotedBody quote rest).map (fun r => ('\\' :: c :: r.1, r.2))
  | c :: rest => if c = quote then some ([], rest) else (quotedBody quote rest).map (fun r => (c :: r.1, r.2))

def escape? (quote c : Char) : Option Char :=
  if c = '\\' || c = '\'' then some c
  else if quote = '\'' then none
  else match c with
    | '"' => some '"'
    | 'a' => some '\x07'
    | 'b' => some '\x08'
    | 'f' => some '\x0c'
    | 'n' => some '\n'
    | 'r' => some '\r'
    | 't' => some '\t'
    | 'v' => some '\x0b'
    | _ => none

def unescape (quote : Char) : List Char → List Char
  | '\\' :: c :: rest => match escape? quote c with
    | some d => d :: unescape quote rest
    | none => '\\' :: unescape quote (c :: rest)
  | c :: rest => c :: unescape quote rest
  | [] => []

/-- A text up to white space before a number sign. -/
def beforeComment : List Char → List Char
  | [] => []
  | c :: rest =>
    if isBlank c && (rest.dropWhile isBlank).head? = some '#' then []
    else c :: beforeComment rest

/-- The value after the equals sign, and the text after it; or the text at which its quote finds no end. -/
def value (l : List Char) : Except (List Char) (List Char × List Char) :=
  let quoted (quote : Char) (here rest : List Char) : Except (List Char) (List Char × List Char) :=
    match quotedBody quote rest with
    | some (body, after) => .ok (unescape quote body, after)
    | none => .error here
  match l.dropWhile isInlineBlank with
  | '\'' :: rest => quoted '\'' ('\'' :: rest) rest
  | '"' :: rest => quoted '"' ('"' :: rest) rest
  | _ =>
    let line := l.takeWhile (· ≠ '\n')
    .ok (trim (beforeComment line), l.drop line.length)

def dropExport (l : List Char) : List Char :=
  let word := "export".toList
  if word.isPrefixOf l then
    match l.drop word.length with
    | c :: rest => if isInlineBlank c then rest.dropWhile isInlineBlank else l
    | [] => l
  else l

/-- The key at the head of a line, and the text after it; a comment has none. -/
def key? (l : List Char) : Option (Option (List Char) × List Char) :=
  match l with
  | '#' :: _ => some (none, l)
  | '\'' :: rest =>
    match rest.span (· ≠ '\'') with
    | (c :: key, _ :: after) => some (some (c :: key), after)
    | _ => none
  | _ =>
    match l.span (fun c => c ≠ '=' && c ≠ '#' && !isBlank c) with
    | ([], _) => none
    | (key, after) => some (some key, after)

/-- Past a comment at the end of a line, and past the end of the line; something else there is a fault. -/
def lineTail? (l : List Char) : Option (List Char) :=
  let l := match l.dropWhile isInlineBlank with
    | '#' :: rest => rest.dropWhile (· ≠ '\n')
    | _ => l
  match l.dropWhile isInlineBlank with
  | [] => some []
  | '\n' :: rest => some rest
  | _ => none

/-- A key with its value, if it has one; nothing for a comment. -/
abbrev Binding := Option (List Char × Option (List Char))

def valueAfter (l : List Char) : Except (List Char) (Option (List Char) × List Char) :=
  match l with
  | '=' :: rest => (value rest).map (fun r => (some r.1, r.2))
  | _ => .ok (none, l)

def bindingOf (l : List Char) : Except (List Char) (Binding × List Char) := do
  let l := dropExport l
  match key? l with
  | none => .error l
  | some (key, l) =>
    let (value, l) ← valueAfter (l.dropWhile isInlineBlank)
    match lineTail? l with
    | none => .error l
    | some rest => .ok (key.map (fun k => (k, value)), rest)

/-- **The bindings of a file.**  The fuel is the length of the text, of which each line takes some. -/
def bindings : Nat → List Char → List (List Char × Option (List Char))
  | 0, _ => []
  | fuel + 1, l =>
    match l.dropWhile isBlank with
    | [] => []
    | l =>
      match bindingOf l with
      | .ok (none, rest) => bindings fuel rest
      | .ok (some b, rest) => b :: bindings fuel rest
      | .error rest => bindings fuel (dropLine rest)

/-- The name and the alternative between the braces of a reference. -/
def reference? (l : List Char) : Option (List Char × List Char × List Char) :=
  let (name, rest) := l.span (fun c => c ≠ '\x7d' && c ≠ ':')
  match rest with
  | '\x7d' :: rest => some (name, [], rest)
  | ':' :: '-' :: rest =>
    match rest.span (· ≠ '\x7d') with
    | (other, _ :: rest) => some (name, other, rest)
    | _ => none
  | _ => none

/-- The text with its references replaced.  The fuel is the length of the text. -/
def expand (names : Entries (List Char) (List Char)) : Nat → List Char → List Char
  | 0, l => l
  | _, [] => []
  | fuel + 1, '$' :: '\x7b' :: rest =>
    match reference? rest with
    | some (name, other, rest) => (names.get? name).getD other ++ expand names fuel rest
    | none => '$' :: expand names fuel ('\x7b' :: rest)
  | fuel + 1, c :: rest => c :: expand names fuel rest

/-- What is known by name: the environment, and over it the settings so far, of which those without a value are
empty. -/
def known (environment : Entries (List Char) (List Char)) (settings : Entries (List Char) (Option (List Char))) :
    Entries (List Char) (List Char) :=
  Entries.merge environment (settings.map (fun s => (s.1, s.2.getD [])))

/-- **The settings of a file**, references to those before them and to the environment replaced.  A name without a
value takes away the value that it had. -/
def read (environment : Entries (List Char) (List Char)) (text : List Char) :
    Entries (List Char) (Option (List Char)) :=
  let text := withLineFeeds (withoutMark text)
  (bindings (text.length + 1) text).foldl (fun settings b =>
    settings.set b.1 (b.2.map (fun v => expand (known environment settings) v.length v))) []

end Dotenv
end Scaffold
