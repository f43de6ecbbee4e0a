import Scaffold.Proofs.Artifact.ModelText
/-!
# Proofs.Artifact.Agreement — table and model declare the same columns

Table and model are built from the fields one apart from the other.  What the text of the model says of a column is read
from its declaration: the name of the column stands first, or else the column is named like the attribute, and the other
arguments are found by position and keyword.  It agrees with the column of the table in every respect (`same_table`).
-/
namespace Scaffold

open Naming Source Text

namespace Source
namespace Declaration

def arguments (d : Declaration) : List (List Token) := callArguments d.value

/-- **The name of the column**: the text that is the first argument, or the declared name. -/
def columnName? (d : Declaration) : Option (List Nat) :=
  match firstText? d.arguments with
  | some l => decode .module l
  | none => some (d.name.map Char.toNat)

def number? (l : List Char) : Option Nat :=
  if l ≠ [] ∧ l.all isDigitAscii then some (l.foldl (fun n c => 10 * n + (c.toNat - 48)) 0) else none

def typeNamed? : List Token → Option ColumnType
  | [.word w] =>
    if w = "Integer".toList then some .integer
    else if w = "Boolean".toList then some .boolean
    else if w = "Date".toList then some .date
    else if w = "Text".toList then some .text
    else none
  | [.word w, .mark '(', .word n, .mark ')'] => if w = "String".toList then (number? n).map .varchar else none
  | _ => none

/-- **The type of the column**: the first argument that is no text. -/
def columnType? (d : Declaration) : Option ColumnType :=
  (d.arguments.find? (fun ts => (firstText? [ts]).isNone)).bind typeNamed?

def default? (d : Declaration) : Option (List Token) := keyword? "server_default" d.arguments

def wrapped? : List Token → Option (List Nat)
  | [.word w, .mark '(', .quoted '"' l, .mark ')'] => if w = "text".toList then decode .module l else none
  | _ => none

end Declaration
end Source

/-- **What a column of the table and a declaration of the model say of a field is the same.** -/
structure Agrees (t : Table) (f : Field) (c : Column) (d : Declaration) : Prop where
  name : d.columnName? = some (c.name.toList.map Char.toNat)
  type : d.columnType? = some c.type
  nullable : keyword? "nullable" d.arguments = some [.word (if c.nullable then "True" else "False").toList]
  key : keyword? "primary_key" d.arguments = none ∧ c.primaryKey = false
  index : keyword? "index" d.arguments = some [.word "True".toList] ↔ ∃ i ∈ t.indexes, i.column = c.name
  hasDefault : d.default?.isSome = c.default?.isSome
  default : f.type = .number ∨ f.type = .boolean →
    d.default?.bind Declaration.wrapped? = c.default?.map (fun v => (Script.defaultText v).toList.map Char.toNat)

/-- **The declaration is that of the identity column**, a key that counts by itself. -/
structure IsIdentity (d : Declaration) : Prop where
  name : d.columnName? = some (Table.identityColumn.name.toList.map Char.toNat)
  type : d.columnType? = some Table.identityColumn.type
  key : keyword? "primary_key" d.arguments = some [.word "True".toList]
  counts : [.word "Identity".toList, .mark '(', .word "always".toList, .mark '=', .word "True".toList, .mark ')'] ∈
    d.arguments

namespace MappedColumn

theorem arguments_declaration {c : MappedColumn} (h : c.HasValue) : c.declaration.arguments = c.argumentTokens := by
  rw [Declaration.arguments, declaration]
  exact callArguments_of_forall₂ (forall₂_arguments h) c.argumentTokens_ne_nil _

theorem firstText?_argumentTokens (c : MappedColumn) :
    firstText? c.argumentTokens = c.column?.map (fun w => w.signs.flatMap literalSign) := by
  unfold argumentTokens
  cases c.column? with
  | none => cases c.storage <;> rfl
  | some w => rfl

theorem typeTokens_argumentTokens (c : MappedColumn) :
    c.argumentTokens.find? (fun ts => (firstText? [ts]).isNone) = some c.storage.tokens := by
  unfold argumentTokens
  cases c.column? <;> cases c.storage <;> rfl

end MappedColumn

namespace Schema

theorem isIdentity : IsIdentity identityDeclaration := by
  have harguments : identityDeclaration.arguments = [[.word "Integer".toList],
      [.word "Identity".toList, .mark '(', .word "always".toList, .mark '=', .word "True".toList, .mark ')'],
      [.word "primary_key".toList, .mark '=', .word "True".toList]] := rfl
  refine ⟨?_, ?_, ?_, ?_⟩
  · rw [Declaration.columnName?, harguments]
    rfl
  · rw [Declaration.columnType?, harguments]
    rfl
  · rw [harguments]
    rfl
  · rw [harguments]
    exact List.mem_cons_of_mem _ List.mem_cons_self

variable {s : Schema}

theorem Accepted.exists_index_iff (h : s.Accepted) {f : Field} (hf : f ∈ s.dataFields) :
    (∃ i ∈ (s.dataFields.filter Field.indexed).map (Table.indexOf s.tableName), i.column = f.name.shown) ↔
      f.indexed = true := by
  constructor
  · rintro ⟨i, hi, hname⟩
    obtain ⟨g, hg, rfl⟩ := List.mem_map.1 hi
    obtain ⟨hg, hindexed⟩ := List.mem_filter.1 hg
    rwa [← List.inj_on_of_nodup_map h.nodup_shown hg hf hname]
  · exact fun hindexed => ⟨_, List.mem_map_of_mem (List.mem_filter.2 ⟨hf, hindexed⟩), rfl⟩

theorem typeNamed?_mapping (type : FieldType) :
    Declaration.typeNamed? type.mapping.storage.tokens = some type.columnType := by
  cases type <;> decide

theorem wrapped?_written {v : DefaultValue} (h : ∀ w, v ≠ .text w) :
    Declaration.wrapped? (ModelDefault.ofValue v).tokens =
      some ((Script.defaultText (.ofValue v)).toList.map Char.toNat) := by
  have hexpression : ModelDefault.ofValue v = .expression v.written ∧
      ColumnDefault.ofValue v = .expression v.written := by
    cases v with
    | text w => exact absurd rfl (h w)
    | number n => exact ⟨rfl, rfl⟩
    | flag b => exact ⟨rfl, rfl⟩
  rw [hexpression.1, hexpression.2, ModelDefault.tokens, Declaration.wrapped?, if_pos rfl,
    decode_of_isPlain (ModelDefault.isPlain_written v h), Script.defaultText]

/-- **Column and declaration of a data field agree.** -/
theorem Named.agrees (h : s.Named) {t : Table}
    (ht : t.indexes = (s.dataFields.filter Field.indexed).map (Table.indexOf s.tableName)) {f : Field}
    (hf : f ∈ s.dataFields) {attr : String} {c : Column} {m : MappedColumn} (hc : f.column = .ok c)
    (hm : f.mappedColumn attr = .ok m) : Agrees t f c m.declaration := by
  have harguments := MappedColumn.arguments_declaration (Field.hasValue_of_mappedColumn hm)
  obtain ⟨value, hvalue, rfl⟩ := Sequence.map_eq_ok_iff.1 hc
  obtain ⟨_, hsame, rfl⟩ := Sequence.map_eq_ok_iff.1 hm
  obtain rfl := Except.ok.inj (hvalue.symm.trans hsame)
  refine ⟨?_, ?_, ?_, ⟨?_, rfl⟩, ?_, ?_, fun htype => ?_⟩
  · rw [Declaration.columnName?, harguments, MappedColumn.firstText?_argumentTokens]
    -- the name of the column is written exactly where the attribute is another
    by_cases hattr : (attr : Wording) = f.name
    · simp only [hattr, if_true, Option.map_none]
      rw [MappedColumn.declaration, (h.ofText_eq_name_iff hf attr).1 hattr]
    · simp only [hattr, if_false, Option.map_some]
      exact h.decode_name hf .module
  · rw [Declaration.columnType?, harguments, MappedColumn.typeTokens_argumentTokens]
    exact typeNamed?_mapping f.type
  · rw [harguments, MappedColumn.keyword?_nullable]
  · rw [harguments, MappedColumn.keyword?_primary_key]
  · rw [harguments, MappedColumn.keyword?_index, ht, h.accepted.exists_index_iff hf]
    cases f.indexed <;> simp
  · rw [Declaration.default?, harguments, MappedColumn.keyword?_server_default]
    cases value <;> rfl
  · rw [Declaration.default?, harguments, MappedColumn.keyword?_server_default]
    cases value with
    | none => rfl
    | some v =>
      -- a value of such a type is no text, and only texts are written differently
      obtain ⟨w, -, hcoerced⟩ := Field.coerced_eq_some_iff.1 hvalue
      have htextual : ¬ f.type.IsTextual := by rcases htype with htype | htype <;> rw [htype] <;> exact id
      exact wrapped?_written (Default.ne_text_of_coerce htextual hcoerced)

/-- **Table and model declare the same table**, for every schema that passes for compilation and whose names are
identifiers.  Both come about; the table has the name that the class is assigned, and both begin with the identity, the
only key.  Behind it both have a column for each data field, in declared order, and the two agree. -/
theorem same_table {threshold : Int} {s : Schema} (h : (s.validate threshold).errors = [])
    (hnames : ∀ w ∈ s.names, w.In identifiers) : ∃ t text identity columns declared,
      s.table = .ok t ∧ s.model = .ok text ∧
      assigned? "__tablename__" (s.modelClass text) = some [.quoted '"' t.name.toList] ∧
      t.columns = Table.identityColumn :: columns ∧ declarations (s.modelClass text) = identity :: declared ∧
      IsIdentity identity ∧
      columns.map Column.name = s.dataFields.map (fun f => f.name.shown) ∧
      List.Forall₂ (fun p d => Agrees t p.1 p.2 d) (s.dataFields.zip columns) declared := by
  have hnamed := Named.of_errors h hnames
  obtain ⟨columns, hcolumns, htable⟩ := hnamed.accepted.table_eq_ok
  obtain ⟨text, mapped, hmodel, hmapped, hassigned, hdeclared, -⟩ := hnamed.model_read
  have hcolumns := (Sequence.mapM_eq_ok_iff _ _ _).1 hcolumns
  refine ⟨_, text, identityDeclaration, columns, mapped.map MappedColumn.declaration, htable, hmodel, hassigned, rfl,
    hdeclared, isIdentity, Field.names_of_columns hcolumns, ?_⟩
  rw [attributes_eq, List.forall₂_map_left_iff] at hmapped
  rw [List.forall₂_map_right_iff]
  have hfields := (List.forall₂_and_left _ _).2 ⟨fun f (hf : f ∈ s.dataFields) => hf, hcolumns⟩
  have hagree : ∀ f c m, (f ∈ s.dataFields ∧ f.column = .ok c) →
      f.mappedColumn (String.ofList (attributeOf s.shownNames f.name.shown.toList)) = .ok m →
      Agrees ⟨s.tableName, Table.identityColumn :: columns,
        (s.dataFields.filter Field.indexed).map (Table.indexOf s.tableName)⟩ f c m.declaration :=
    fun f c m hc hm => hnamed.agrees rfl hc.1 hc.2 hm
  exact Sequence.forall₂_zip hagree hfields hmapped

/-- **The table and the model of orders**: the model names the column of the attribute that is renamed, and both have
the default of the number. -/
theorem same_table_orders : ∃ text identity renamed count, orders.model = .ok text ∧
    assigned? "__tablename__" (orders.modelClass text) = some [.quoted '"' "orders".toList] ∧
    declarations (orders.modelClass text) = [identity, renamed, count] ∧ IsIdentity identity ∧
    renamed.columnName? = some ("class".toList.map Char.toNat) ∧ count.columnType? = some .integer ∧
    count.default?.bind Declaration.wrapped? = some ("3".toList.map Char.toNat) := by
  obtain ⟨t, text, identity, columns, declared, ht, htext, hassigned, hcolumns, hdeclared, hidentity, -, hagree⟩ :=
    same_table orders_accepted orders_names
  have htable : orders.table = .ok ⟨"orders", [Table.identityColumn, ⟨"class", .varchar 255, true, false, none⟩,
      ⟨"count", .integer, false, false, some (.expression "3")⟩], [⟨"ix_orders_count", "count"⟩]⟩ := by
    decide +kernel
  obtain rfl := Except.ok.inj (ht.symm.trans htable)
  obtain ⟨-, rfl⟩ := List.cons.inj hcolumns
  have hfields : orders.dataFields = orders.fields := by decide +kernel
  rw [hfields] at hagree
  obtain ⟨renamed, _, hrenamed, hrest, rfl⟩ := List.forall₂_cons_left_iff.1 hagree
  obtain ⟨count, _, hcount, hnil, rfl⟩ := List.forall₂_cons_left_iff.1 hrest
  obtain rfl := List.forall₂_nil_left_iff.1 hnil
  exact ⟨text, identity, renamed, count, htext, hassigned, hdeclared, hidentity, hrenamed.name, hcount.type,
    hcount.default (.inl rfl)⟩

end Schema
end Scaffold
