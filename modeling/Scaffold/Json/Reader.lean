import Scaffold.Json.Basic
import Scaffold.Text.Digit
import Scaffold.Text.Encoding
/-!
# Json.Reader — reading the data format

One pass over the signs of a text with the position of each.  A text that is no value is refused with what was expected
and where; the position is that of the offending character, or of the opening quote for a string without an end.  The
words `NaN`, `Infinity` and `-Infinity` are numbers.  Half of a pair may stand in a string, written as an escape or as
it is.  A repeated key keeps its first place and its last value.  How deep arrays and objects may lie in each other can
be limited.
-/
namespace Scaffold
namespace Json

open Text (Sign)

inductive Complaint where
  | value
  | key
  | colon
  | comma
  | extraData
  | unterminated
  | escape
  | unicodeEscape
  | control
deriving DecidableEq, Repr

namespace Complaint

def text : Complaint → String
  | .value => "Expecting value"
  | .key => "Expecting property name enclosed in double quotes"
  | .colon => "Expecting ':' delimiter"
  | .comma => "Expecting ',' delimiter"
  | .extraData => "Extra data"
  | .unterminated => "Unterminated string starting at"
  | .escape => "Invalid \\escape"
  | .unicodeEscape => "Invalid \\uXXXX escape"
  | .control => "Invalid control character at"

end Complaint

inductive Container where
  | array
  | object
deriving DecidableEq, Repr

namespace Container

def name : Container → String
  | .array => "array"
  | .object => "object"

def tooDeepText (c : Container) : String :=
  s!"maximum recursion depth exceeded while decoding a JSON {c.name} from a unicode string"

end Container

/-- **Why a text was refused**: a complaint about a position, an integer with too many digits, or a container that lies
too deep. -/
inductive ReadError where
  | complaint (what : Complaint) (position : Nat)
  | tooManyDigits (count : Nat)
  | tooDeep (container : Container)
deriving DecidableEq, Repr

def lineColumn (l : List Sign) (position : Nat) : Nat × Nat :=
  let before := l.take position
  (before.count (.char '\n') + 1, (before.reverse.takeWhile (· ≠ .char '\n')).length + 1)

namespace ReadError

/-- **The message**, which gives a position as line, column and offset. -/
def message (l : List Sign) : ReadError → String
  | .complaint what position =>
    let (line, column) := lineColumn l position
    s!"{what.text}: line {line} column {column} (char {position})"
  | .tooManyDigits count => Text.tooManyDigitsText count
  | .tooDeep container => container.tooDeepText

end ReadError

/-- The rest of a text and its position. -/
structure Cursor where
  position : Nat
  rest : List Sign

abbrev Reading (α : Type) := Except ReadError (α × Cursor)

namespace Cursor

def refuse {α : Type} (c : Cursor) (what : Complaint) : Reading α := .error (.complaint what c.position)

def advance (c : Cursor) (n : Nat) : Cursor := ⟨c.position + n, c.rest.drop n⟩

def isSpace : Sign → Bool
  | .char c => c = ' ' || c = '\t' || c = '\n' || c = '\r'
  | .half _ => false

def skip (c : Cursor) : Cursor :=
  let n := (c.rest.takeWhile isSpace).length
  c.advance n

end Cursor

def hexValue? : Sign → Option Nat
  | .char c => Text.hexValue? c
  | .half _ => none

def unit? (a b c d : Sign) : Option Nat := do
  let a ← hexValue? a
  let b ← hexValue? b
  let c ← hexValue? c
  let d ← hexValue? d
  some (((a * 16 + b) * 16 + c) * 16 + d)

def escape? : Char → Option Char
  | '"' => some '"'
  | '\\' => some '\\'
  | '/' => some '/'
  | 'b' => some '\x08'
  | 'f' => some '\x0c'
  | 'n' => some '\n'
  | 'r' => some '\r'
  | 't' => some '\t'
  | _ => none

/-- The second unit of a pair that begins at the given text, if one is written there; a malformed one is refused. -/
def secondUnit (position : Nat) : List Sign → Except ReadError (Option Nat)
  | .char '\\' :: .char 'u' :: a :: b :: c :: d :: _ :: _ =>
    match unit? a b c d with
    | none => .error (.complaint .unicodeEscape (position + 1))
    | some n => .ok (if Text.isLowUnit n then some n else none)
  | _ => .ok none

/-- The sign of a `\\u` escape whose four digits begin at the cursor, and what follows it.  One sign at least must
follow the digits. -/
def unicodeEscape (c : Cursor) : Reading Sign :=
  match c.rest with
  | a :: b :: d :: e :: next :: rest =>
    match unit? a b d e with
    | none => .error (.complaint .unicodeEscape (c.position - 1))
    | some high =>
      let after : Cursor := ⟨c.position + 4, next :: rest⟩
      if Text.isHighUnit high then
        match secondUnit after.position after.rest with
        | .error e => .error e
        | .ok none => .ok (.ofPoint high, after)
        | .ok (some low) => .ok (Text.signOfPair high low, after.advance 6)
      else .ok (.ofPoint high, after)
  | _ => .error (.complaint .unicodeEscape (c.position - 1))

/-- **The signs of a string up to its closing quote**; `start` is where it opened.  The fuel is the length of the rest,
each step taking at least one sign. -/
def stringBody (start : Nat) : Nat → Cursor → List Sign → Reading Wording
  | 0, _, _ => .error (.complaint .unterminated start)
  | fuel + 1, c, read =>
    match c.rest with
    | [] => .error (.complaint .unterminated start)
    | .char '"' :: _ => .ok (⟨read.reverse⟩, c.advance 1)
    | [.char '\\'] => .error (.complaint .unterminated start)
    | .char '\\' :: .char 'u' :: _ =>
      match unicodeEscape (c.advance 2) with
      | .error e => .error e
      | .ok (x, after) => stringBody start fuel after (x :: read)
    | .char '\\' :: x :: _ =>
      match x.char?.bind escape? with
      | none => c.refuse .escape
      | some y => stringBody start fuel (c.advance 2) (.char y :: read)
    | x :: _ =>
      if x.shown.toNat < 0x20 then c.refuse .control
      else stringBody start fuel (c.advance 1) (x :: read)

def string (c : Cursor) : Reading Wording := stringBody c.position c.rest.length (c.advance 1) []

def isAsciiDigit (c : Char) : Bool := decide (48 ≤ c.toNat) && decide (c.toNat ≤ 57)

/-- The whole part of a numeral: a zero, or digits that do not begin with one. -/
def wholePart (l : List Char) : List Char :=
  match l with
  | '0' :: _ => ['0']
  | _ => l.takeWhile isAsciiDigit

/-- The digits after a point that at least one digit follows. -/
def fractionPart : List Char → Option (List Char)
  | '.' :: rest => match rest.takeWhile isAsciiDigit with
    | [] => none
    | d => some d
  | _ => none

/-- The sign and digits of an exponent with at least one digit, and its length. -/
def exponentPart : List Char → Option (Int × Nat)
  | e :: rest =>
    if e = 'e' ∨ e = 'E' then
      let (negative, n, rest) := match rest with
        | '-' :: r => (true, 2, r)
        | '+' :: r => (false, 2, r)
        | r => (false, 1, r)
      match rest.takeWhile isAsciiDigit with
      | [] => none
      | d =>
        -- beyond five digits the exponent decides alone, whatever the digits before it
        let size := (d.dropWhile (· == '0')).length
        let k : Int := if 6 < size then 10000000 else Text.natOfDigits d
        some (if negative then -k else k, n + d.length)
    else none
  | [] => none

def isNumeral : Sign → Bool
  | .char c => isAsciiDigit c || c = '-' || c = '+' || c = '.' || c = 'e' || c = 'E'
  | .half _ => false

/-- **A number**: an integer unless it has a fraction or an exponent. -/
def number (c : Cursor) : Reading Json :=
  let (negative, l) := match (c.rest.takeWhile isNumeral).map Sign.shown with
    | '-' :: rest => (true, rest)
    | rest => (false, rest)
  let signLength := if negative then 1 else 0
  match wholePart l with
  | [] => c.refuse .value
  | whole =>
    let l := l.drop whole.length
    let fraction := fractionPart l
    let fractionDigits := fraction.getD []
    let fractionLength := match fraction with
      | some d => d.length + 1
      | none => 0
    let exponent := exponentPart (l.drop fractionLength)
    let exponentLength := match exponent with
      | some e => e.2
      | none => 0
    let after := c.advance (signLength + whole.length + fractionLength + exponentLength)
    if fraction.isNone && exponent.isNone then
      if Text.maxDigits < whole.length then .error (.tooManyDigits whole.length)
      else
        let n : Int := Text.natOfDigits whole
        .ok (.int (if negative then -n else n), after)
    else
      let power := (exponent.map (·.1)).getD 0 - fractionDigits.length
      .ok (.float (Binary64.ofDecimal negative (Text.natOfDigits (whole ++ fractionDigits)) power), after)

def constants : List (Wording × Json) :=
  [("null", .null), ("true", .bool true), ("false", .bool false), ("NaN", .float .nan),
   ("Infinity", .float (.infinite false)), ("-Infinity", .float (.infinite true))]

def constant? (c : Cursor) : Option (Json × Cursor) :=
  (constants.find? (fun e => e.1.signs.isPrefixOf c.rest)).map (fun e => (e.2, c.advance e.1.length))

mutual

/-- **A value at the cursor**, with containers in each other at most `room` deep.  Twice the length of the text is fuel
enough, and one more for its end: a bracket takes two steps, and a comma one. -/
def value (room : Nat) : Nat → Cursor → Reading Json
  | 0, c => c.refuse .value
  | fuel + 1, c =>
    match c.rest with
    | [] => c.refuse .value
    | .char '"' :: _ => (string c).map (fun r => (.str r.1, r.2))
    | .char '[' :: _ =>
      match room with
      | 0 => .error (.tooDeep .array)
      | room + 1 =>
        let c := (c.advance 1).skip
        match c.rest with
        | .char ']' :: _ => .ok (.arr [], c.advance 1)
        | _ => (elements room fuel c []).map (fun r => (.arr r.1, r.2))
    | .char '\x7b' :: _ =>
      match room with
      | 0 => .error (.tooDeep .object)
      | room + 1 =>
        let c := (c.advance 1).skip
        match c.rest with
        | .char '\x7d' :: _ => .ok (.obj [], c.advance 1)
        | _ => (members room fuel c []).map (fun r => (.obj r.1, r.2))
    | _ =>
      match constant? c with
      | some r => .ok r
      | none => number c

/-- The elements of an array from a value on, those read before in reverse. -/
def elements (room : Nat) : Nat → Cursor → List Json → Except ReadError (List Json × Cursor)
  | 0, c, _ => c.refuse .value
  | fuel + 1, c, read => do
    let (v, c) ← value room fuel c
    let c := c.skip
    match c.rest with
    | .char ']' :: _ => pure ((v :: read).reverse, c.advance 1)
    | .char ',' :: _ => elements room fuel (c.advance 1).skip (v :: read)
    | _ => c.refuse .comma

/-- The members of an object from a key on, after those read before. -/
def members (room : Nat) : Nat → Cursor → Members → Except ReadError (Members × Cursor)
  | 0, c, _ => c.refuse .key
  | fuel + 1, c, read =>
    match c.rest with
    | .char '"' :: _ => do
      let (key, c) ← string c
      let c := c.skip
      match c.rest with
      | .char ':' :: _ =>
        let (v, c) ← value room fuel (c.advance 1).skip
        let c := c.skip
        match c.rest with
        | .char '\x7d' :: _ => pure (read.set key v, c.advance 1)
        | .char ',' :: _ => members room fuel (c.advance 1).skip (read.set key v)
        | _ => c.refuse .comma
      | _ => c.refuse .colon
    | _ => c.refuse .key

end

/-- **The value that a text writes**, white space around it aside, with containers in each other at most `room` deep. -/
def readWithin (room : Nat) (l : List Sign) : Except ReadError Json := do
  let (v, c) ← value room (2 * l.length + 1) (Cursor.skip ⟨0, l⟩)
  let c := c.skip
  match c.rest with
  | [] => .ok v
  | _ => .error (.complaint .extraData c.position)

/-- **The value that a text writes**, however deep its containers lie. -/
def read (l : List Sign) : Except ReadError Json := readWithin l.length l

end Json
end Scaffold
