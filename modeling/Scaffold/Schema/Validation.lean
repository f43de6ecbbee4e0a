import Scaffold.Schema.Default
/-!
# Schema.Validation — whether a schema may be compiled

Every check runs on every schema and in one order, so a schema always has the same report.  Errors stand in the way of
compilation, warnings never do.
-/
namespace Scaffold

inductive Finding where
  | entityNameEmpty
  | entityNameInvalid (name : Wording)
  | noFields
  | duplicateFieldName (name : Wording) (count : Nat)
  | fieldNameInvalid (name : Wording)
  | defaultValueInvalid (name : Wording) (type : FieldType) (reason : DefaultError)
  | relationWithoutIndex (name : Wording)
  | requiredTextWithoutDefault (name : Wording)
  | paginationRecommended (fields : Nat) (threshold : Int)
  | noOperations
  | identityTypeIgnored (name : Wording) (type : FieldType)
deriving DecidableEq, Repr

namespace Finding

def code : Finding → String
  | .entityNameEmpty => "ENTITY_NAME_EMPTY"
  | .entityNameInvalid _ => "ENTITY_NAME_INVALID"
  | .noFields => "NO_FIELDS"
  | .duplicateFieldName .. => "DUPLICATE_FIELD_NAME"
  | .fieldNameInvalid _ => "FIELD_NAME_INVALID"
  | .defaultValueInvalid .. => "DEFAULT_VALUE_INVALID"
  | .relationWithoutIndex _ => "RELATION_WITHOUT_INDEX"
  | .requiredTextWithoutDefault _ => "REQUIRED_TEXT_WITHOUT_DEFAULT"
  | .paginationRecommended .. => "PAGINATION_RECOMMENDED"
  | .noOperations => "NO_OPERATIONS"
  | .identityTypeIgnored .. => "IDENTITY_TYPE_IGNORED"

def nameRule : String := "must start with a letter or underscore and contain only letters, digits and underscores"

def message : Finding → String
  | .entityNameEmpty => "Entity name is required"
  | .entityNameInvalid name => s!"Entity name '{name}' {nameRule}"
  | .noFields => "At least one field is required"
  | .duplicateFieldName name count =>
    s!"Field name '{name}' is used by {count} fields (names are case-insensitive)"
  | .fieldNameInvalid name => s!"Field name '{name}' {nameRule}"
  | .defaultValueInvalid name type reason =>
    s!"Default value for '{name}' is not a valid {type.name}: {reason.message}"
  | .relationWithoutIndex name => s!"Consider adding an index on the '{name}' field for better query performance"
  | .requiredTextWithoutDefault name =>
    s!"Required text field '{name}' has no default value; existing rows and imports will need one"
  | .paginationRecommended fields threshold =>
    s!"Entity has {fields} fields (more than {threshold}); consider enabling pagination for list reads"
  | .noOperations => "No CRUD operations are enabled; the generated API and UI will have no actions"
  | .identityTypeIgnored name type =>
    s!"Field '{name}' is the identity column and is always an auto-incrementing integer; its type " ++
      s!"'{type.name}' is ignored"

def field? : Finding → Option Wording
  | .duplicateFieldName name _ | .fieldNameInvalid name | .defaultValueInvalid name _ _ | .relationWithoutIndex name
  | .requiredTextWithoutDefault name | .identityTypeIgnored name _ => some name
  | _ => none

end Finding

/-- **What the checks found**, errors and warnings in the order of the checks. -/
structure Report where
  errors : List Finding
  warnings : List Finding
deriving DecidableEq, Repr

namespace Report

def ok (r : Report) : Bool := r.errors.isEmpty

end Report

/-- The count of fields above which reading a list should be paginated, where nothing else is set. -/
def defaultThreshold : Int := 8

namespace Schema

def isIdentifier (name : Wording) : Bool := Naming.isIdentifier name.shown.toList

def entityNameErrors (s : Schema) : List Finding :=
  if (Text.trim s.entityName.shown.toList).isEmpty then [.entityNameEmpty]
  else if isIdentifier s.entityName then [] else [.entityNameInvalid s.entityName]

def noFieldErrors (s : Schema) : List Finding := if s.fields.isEmpty then [.noFields] else []

/-- The names grouped by their lower case, in the order in which each group begins. -/
def nameGroups (names : List Wording) : Entries Wording (List Wording) :=
  names.foldl (fun groups name =>
    let key := name.lower
    groups.set key ((groups.get? key).getD [] ++ [name])) []

def duplicateNameErrors (s : Schema) : List Finding :=
  (nameGroups (s.fields.map Field.name)).filterMap (fun group =>
    match group.2 with
    | first :: _ :: _ => some (.duplicateFieldName first group.2.length)
    | _ => none)

def fieldNameErrors (s : Schema) : List Finding :=
  (s.fields.filter (fun f => !isIdentifier f.name)).map (fun f => .fieldNameInvalid f.name)

def defaultErrors (s : Schema) : List Finding :=
  s.fields.filterMap (fun f =>
    if f.namesIdentity then none
    else
      match f.coerced with
      | .ok _ => none
      | .error e => some (.defaultValueInvalid f.name f.type e))

def relationSuffixes : List (List Char) := ["_id".toList, "_ref".toList, "_fk".toList]

def namesRelation (f : Field) : Bool := relationSuffixes.any (fun x => x.isSuffixOf (Text.lower f.name.shown.toList))

def relationWarnings (s : Schema) : List Finding :=
  (s.fields.filter (fun f => !f.namesIdentity && !f.indexed && namesRelation f)).map
    (fun f => .relationWithoutIndex f.name)

def requiredTextWarnings (s : Schema) : List Finding :=
  (s.fields.filter (fun f => f.type = .text && f.required && f.default?.isNone)).map
    (fun f => .requiredTextWithoutDefault f.name)

def paginationWarnings (threshold : Int) (s : Schema) : List Finding :=
  if s.operations.read && !s.paginate && decide (threshold < s.fields.length) then
    [.paginationRecommended s.fields.length threshold]
  else []

def operationWarnings (s : Schema) : List Finding := if s.operations.anyEnabled then [] else [.noOperations]

def identityTypeWarnings (s : Schema) : List Finding :=
  (s.fields.filter (fun f => f.namesIdentity && f.type ≠ .number)).map (fun f => .identityTypeIgnored f.name f.type)

def validate (threshold : Int) (s : Schema) : Report where
  errors := s.entityNameErrors ++ s.noFieldErrors ++ s.duplicateNameErrors ++ s.fieldNameErrors ++ s.defaultErrors
  warnings := s.relationWarnings ++ s.requiredTextWarnings ++ s.paginationWarnings threshold ++ s.operationWarnings ++
    s.identityTypeWarnings

end Schema
end Scaffold
