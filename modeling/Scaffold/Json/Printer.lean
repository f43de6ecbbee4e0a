import Scaffold.Json.Basic
import Scaffold.Number.Shortest
import Scaffold.Text.Digit
import Scaffold.Text.Quoted
/-!
# Json.Printer — values as text

`Json.write` is the compact form of the data format, in ASCII, and `Json.plain` the one in which every character stands
as it is.  `Json.display` is the form in which a message shows a value.
-/
namespace Scaffold
namespace Json

mutual

/-- **The value as a message shows it.** -/
def display : Json → String
  | .null => "None"
  | .bool b => if b then "True" else "False"
  | .int n => String.ofList (Text.intNumeral n)
  | .float x => String.ofList x.text
  | .str w => displayed w
  | .arr items => "[" ++ ", ".intercalate (displayItems items) ++ "]"
  | .obj members => "\x7b" ++ ", ".intercalate (displayMembers members) ++ "\x7d"

def displayItems : List Json → List String
  | [] => []
  | v :: rest => display v :: displayItems rest

def displayMembers : List (Wording × Json) → List String
  | [] => []
  | (k, v) :: rest => (displayed k ++ ": " ++ display v) :: displayMembers rest

end

/-- The number in the data format, which spells out what is no number. -/
def writeFloat : Binary64 → String
  | .infinite negative => if negative then "-Infinity" else "Infinity"
  | .nan => "NaN"
  | x => String.ofList x.text

mutual

def write : Json → String
  | .null => "null"
  | .bool b => if b then "true" else "false"
  | .int n => String.ofList (Text.intNumeral n)
  | .float x => writeFloat x
  | .str w => quoted w
  | .arr items => "[" ++ ",".intercalate (writeItems items) ++ "]"
  | .obj members => "\x7b" ++ ",".intercalate (writeMembers members) ++ "\x7d"

def writeItems : List Json → List String
  | [] => []
  | v :: rest => write v :: writeItems rest

def writeMembers : List (Wording × Json) → List String
  | [] => []
  | (k, v) :: rest => (quoted k ++ ":" ++ write v) :: writeMembers rest

end

def plainSign : Text.Sign → List Text.Sign
  | .char c => if c.toNat < 0x7f then (Text.literalChar c).map .char else [.char c]
  | s => [s]

def plainString (w : Wording) : List Text.Sign := .char '"' :: w.signs.flatMap plainSign ++ [.char '"']

mutual

/-- **The compact text of a value with every character as it is.** -/
def plain : Json → List Text.Sign
  | .str w => plainString w
  | .arr items => .char '[' :: Text.join [.char ','] (plainItems items) ++ [.char ']']
  | .obj members => .char '\x7b' :: Text.join [.char ','] (plainMembers members) ++ [.char '\x7d']
  | v => (Wording.ofText v.write).signs

def plainItems : List Json → List (List Text.Sign)
  | [] => []
  | v :: rest => plain v :: plainItems rest

def plainMembers : List (Wording × Json) → List (List Text.Sign)
  | [] => []
  | (k, v) :: rest => (plainString k ++ .char ':' :: plain v) :: plainMembers rest

end

end Json
end Scaffold
