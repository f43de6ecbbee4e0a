import Scaffold.Json.Reader
import Scaffold.Schema.Basic
import Scaffold.Text.Quoted
/-!
# Schema.Default — default values and what they stand for

The default value of a field is kept as it was typed.  `coerce` reads it by the field's type: a number in
decimal digits of any script, a truth value as one of a few words, a date as year, month and day of the proleptic
Gregorian calendar, an address with one `@` and a point in its domain, or the text itself.
-/
namespace Scaffold

inductive DefaultValue where
  | text (w : Wording)
  | number (n : Int)
  | flag (b : Bool)
deriving DecidableEq, Repr

namespace DefaultValue

/-- **The value as text**, numbers in decimal and truth values as words. -/
def written : DefaultValue → Wording
  | .text w => w
  | .number n => String.ofList (Text.intNumeral n)
  | .flag b => if b then "true" else "false"

end DefaultValue

inductive DefaultError where
  | notInteger (w : Wording)
  | tooManyDigits (count : Nat)
  | notBoolean (w : Wording)
  | notDate (w : Wording)
  | foreignDigits (s : String)
  | yearOutOfRange (year : Nat)
  | monthOutOfRange
  | dayOutOfRange
  | notEmail (w : Wording)
  | tooLong
deriving DecidableEq, Repr

namespace Default

open Text

def maxLength : Nat := 255

namespace Calendar

def isLeap (year : Nat) : Bool := year % 4 == 0 && (year % 100 != 0 || year % 400 == 0)

def daysIn (year month : Nat) : Nat :=
  match month with
  | 2 => if isLeap year then 29 else 28
  | 4 | 6 | 9 | 11 => 30
  | _ => 31

/-- The first thing wrong with a year, a month and a day. -/
def fault? (year month day : Nat) : Option DefaultError :=
  if year = 0 then some (.yearOutOfRange year)
  else if month = 0 ∨ 12 < month then some .monthOutOfRange
  else if day = 0 ∨ daysIn year month < day then some .dayOutOfRange
  else none

end Calendar

def number (value : Wording) : Except DefaultError DefaultValue :=
  let (negative, digits) := signed (trim value.shown.toList)
  if digits.isEmpty || !digits.all isDecimal then .error (.notInteger value)
  else if maxDigits < digits.length then .error (.tooManyDigits digits.length)
  else
    let n : Int := natOfDigits digits
    .ok (.number (if negative then -n else n))

def trueWords : List (List Char) := ["true".toList, "1".toList, "yes".toList, "on".toList]

def falseWords : List (List Char) := ["false".toList, "0".toList, "no".toList, "off".toList]

def boolean (value : Wording) : Except DefaultError DefaultValue :=
  let word := lower (trim value.shown.toList)
  if trueWords.any (· = word) then .ok (.flag true)
  else if falseWords.any (· = word) then .ok (.flag false)
  else .error (.notBoolean value)

/-- The year, month and day of a text in the form `dddd-dd-dd`, in digits of any script. -/
def dateParts? : List Char → Option (List Char × List Char × List Char)
  | [a, b, c, d, '-', e, f, '-', g, h] =>
    if [a, b, c, d, e, f, g, h].all isDecimal then some ([a, b, c, d], [e, f], [g, h]) else none
  | _ => none

def date (value : Wording) : Except DefaultError DefaultValue :=
  let l := trim value.shown.toList
  match dateParts? l with
  | none => .error (.notDate value)
  | some (year, month, day) =>
    if !(year ++ month ++ day).all isDigitAscii then .error (.foreignDigits (String.ofList l))
    else
      match Calendar.fault? (natOfDigits year) (natOfDigits month) (natOfDigits day) with
      | some e => .error e
      | none => .ok (.text (String.ofList l))

/-- A point with at least one character before it and one after it. -/
def hasInnerPoint (l : List Char) : Bool := l.tail.dropLast.contains '.'

/-- **An address**: exactly one `@`, something before it, after it a domain with an inner point, and no white space. -/
def isEmail (l : List Char) : Bool :=
  match split '@' l with
  | [user, domain] => !user.isEmpty && hasInnerPoint domain && !l.any isBlank
  | _ => false

/-- **The meaning of a default value** for a type of field. -/
def coerce (type : FieldType) (value : Wording) : Except DefaultError DefaultValue :=
  match type with
  | .number => number value
  | .boolean => boolean value
  | .date => date value
  | .email => if isEmail (dropFinalNewline value.shown.toList) then .ok (.text value) else .error (.notEmail value)
  | .string => if maxLength < value.length then .error .tooLong else .ok (.text value)
  | .text => .ok (.text value)

end Default

namespace DefaultError

def message : DefaultError → String
  | .notInteger w => displayed w ++ " is not an integer"
  | .tooManyDigits count => Text.tooManyDigitsText count
  | .notBoolean w => displayed w ++ " is not a boolean"
  | .notDate w => displayed w ++ " is not an ISO-8601 date"
  | .foreignDigits s => "Invalid isoformat string: " ++ displayed s
  | .yearOutOfRange year => s!"year {year} is out of range"
  | .monthOutOfRange => "month must be in 1..12"
  | .dayOutOfRange => "day is out of range for month"
  | .notEmail w => displayed w ++ " is not an email address"
  | .tooLong => s!"default is longer than {Default.maxLength} characters"

end DefaultError

namespace Field

def coerced (f : Field) : Except DefaultError (Option DefaultValue) :=
  match f.default? with
  | none => .ok none
  | some v => (Default.coerce f.type v).map some

end Field
end Scaffold
