import Scaffold.Text.Printable
import Scaffold.Wording
/-!
# Text.Quoted — texts as they stand between quotes

Three forms.  `display` is the one of messages: single quotes, double ones if the text holds a single quote and no
double one, and an escape for whatever is not printable.  `literal` is the one of generated programs and of JSON: double
quotes and nothing outside printable ASCII.  `sqlLiteral` is the one of data-definition statements: single quotes, an
inner one doubled, and no escapes at all, so that a backslash stands once for itself (`'é\'` is the literal of `é\`).
-/
namespace Scaffold
namespace Text

def hexDigit (n : Nat) : Char := if n < 10 then Char.ofNat (48 + n) else Char.ofNat (87 + n)

/-- **The last `width` hexadecimal digits of a number.** -/
def hex : Nat → Nat → List Char
  | 0, _ => []
  | width + 1, n => hex width (n / 16) ++ [hexDigit (n % 16)]

def hexValue? (c : Char) : Option Nat :=
  let n := c.toNat
  if 48 ≤ n ∧ n ≤ 57 then some (n - 48)
  else if 97 ≤ n ∧ n ≤ 102 then some (n - 87)
  else if 65 ≤ n ∧ n ≤ 70 then some (n - 55)
  else none

def displayChar (quote : Char) (c : Char) : List Char :=
  if c = quote || c = '\\' then ['\\', c]
  else if c = '\n' then "\\n".toList
  else if c = '\r' then "\\r".toList
  else if c = '\t' then "\\t".toList
  else if isPrintable c then [c]
  else if c.toNat < 0x100 then "\\x".toList ++ hex 2 c.toNat
  else if c.toNat < 0x10000 then "\\u".toList ++ hex 4 c.toNat
  else "\\U".toList ++ hex 8 c.toNat

/-- The sign as it is written between the quotes of a message; half of a pair is escaped. -/
def displaySign (quote : Char) : Sign → List Char
  | .char c => displayChar quote c
  | .half n => "\\u".toList ++ hex 4 (firstHalf + n)

/-- The quote of a message that needs fewer escapes, the single one if both do. -/
def displayQuote (l : List Sign) : Char := if l.contains (.char '\'') && !l.contains (.char '"') then '"' else '\''

def display (l : List Sign) : List Char :=
  let q := displayQuote l
  q :: l.flatMap (displaySign q) ++ [q]

def unitEscape (n : Nat) : List Char := '\\' :: 'u' :: hex 4 n

/-- The character as it is written in a double-quoted literal: a short escape where there is one, itself if it is
printable ASCII, otherwise its 16-bit units. -/
def literalChar (c : Char) : List Char :=
  if c = '"' then "\\\"".toList
  else if c = '\\' then "\\\\".toList
  else if c = '\n' then "\\n".toList
  else if c = '\r' then "\\r".toList
  else if c = '\t' then "\\t".toList
  else if c = '\x08' then "\\b".toList
  else if c = '\x0c' then "\\f".toList
  else if 0x20 ≤ c.toNat ∧ c.toNat ≤ 0x7e then [c]
  else if c.toNat < 0x10000 then unitEscape c.toNat
  else unitEscape (0xd800 + (c.toNat - 0x10000) / 0x400) ++ unitEscape (0xdc00 + (c.toNat - 0x10000) % 0x400)

def literalSign : Sign → List Char
  | .char c => literalChar c
  | .half n => unitEscape (firstHalf + n)

def literal (l : List Sign) : List Char := '"' :: l.flatMap literalSign ++ ['"']

def doubled (quote : Char) (l : List Char) : List Char := l.flatMap (fun c => if c = quote then [c, c] else [c])

def sqlLiteral (l : List Char) : List Char := '\'' :: doubled '\'' l ++ ['\'']

end Text

def displayed (w : Wording) : String := String.ofList (Text.display w.signs)

def quoted (w : Wording) : String := String.ofList (Text.literal w.signs)

end Scaffold
