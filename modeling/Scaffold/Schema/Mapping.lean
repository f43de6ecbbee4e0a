import Scaffold.Schema.Default
/-!
# Schema.Mapping — what each type of field becomes

One row per type: how the model stores it, which type its values have in code, which rule a request is held to, and by
which control and input it is entered.
-/
namespace Scaffold

inductive Storage where
  | string (maxLength : Nat)
  | integer
  | boolean
  | date
  | text
deriving DecidableEq, Repr

namespace Storage

def typeName : Storage → String
  | .string _ => "String"
  | .integer => "Integer"
  | .boolean => "Boolean"
  | .date => "Date"
  | .text => "Text"

def expression : Storage → String
  | .string n => s!"String({n})"
  | s => s.typeName

end Storage

inductive Binding where
  | str
  | int
  | bool
  | date
deriving DecidableEq, Repr

namespace Binding

def name : Binding → String
  | .str => "str"
  | .int => "int"
  | .bool => "bool"
  | .date => "date"

end Binding

/-- **The rule that a request is held to.** -/
inductive Rule where
  | maxLength
  | integer
  | boolean
  | isoDate
  | email
  | none
deriving DecidableEq, Repr

namespace Rule

def name : Rule → String
  | .maxLength => "max_length"
  | .integer => "integer"
  | .boolean => "boolean"
  | .isoDate => "iso_date"
  | .email => "email"
  | .none => "none"

end Rule

inductive Widget where
  | textInput
  | numberInput
  | checkbox
  | datePicker
  | emailInput
  | textarea
deriving DecidableEq, Repr

namespace Widget

def name : Widget → String
  | .textInput => "text-input"
  | .numberInput => "number-input"
  | .checkbox => "checkbox"
  | .datePicker => "date-picker"
  | .emailInput => "email-input"
  | .textarea => "textarea"

end Widget

structure Mapping where
  storage : Storage
  binding : Binding
  rule : Rule
  widget : Widget
  inputType : String
deriving DecidableEq, Repr

namespace FieldType

def mapping : FieldType → Mapping
  | .string => ⟨.string Default.maxLength, .str, .maxLength, .textInput, "text"⟩
  | .number => ⟨.integer, .int, .integer, .numberInput, "number"⟩
  | .boolean => ⟨.boolean, .bool, .boolean, .checkbox, "checkbox"⟩
  | .date => ⟨.date, .date, .isoDate, .datePicker, "date"⟩
  | .email => ⟨.string Default.maxLength, .str, .email, .emailInput, "email"⟩
  | .text => ⟨.text, .str, .none, .textarea, "text"⟩

end FieldType
end Scaffold
