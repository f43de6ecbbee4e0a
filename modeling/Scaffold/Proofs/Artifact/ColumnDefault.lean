import Scaffold.Proofs.Artifact.Table
import Scaffold.Proofs.Schema.Spelling
import Scaffold.Proofs.Text.Parts
import Scaffold.Schema.Mapping
/-!
# Proofs.Artifact.ColumnDefault — whether a column can hold its default

An integer column holds numbers of 32 bits, a short text has a most length, a date is one of the calendar.  A default
that the type of its field takes is of the kind that the column holds, but only short texts and dates are kept within
bounds: an address may be too long for its column, and a number too large (`column_holds_iff`).
-/
namespace Scaffold

open Default Text

namespace Storage

def columnType : Storage → ColumnType
  | .string length => .varchar length
  | .integer => .integer
  | .boolean => .boolean
  | .date => .date
  | .text => .text

end Storage

namespace ColumnType

/-- **What a column of the type holds.** -/
inductive Holds : ColumnType → DefaultValue → Prop
  | integer {n : Int} (least : -2147483648 ≤ n) (greatest : n ≤ 2147483647) : Holds .integer (.number n)
  | varchar {length : Nat} {w : Wording} (short : w.length ≤ length) : Holds (.varchar length) (.text w)
  | boolean (b : Bool) : Holds .boolean (.flag b)
  | date {y m d : Nat} (real : Calendar.IsDate y m d) : Holds .date (.text (String.ofList (Calendar.iso y m d)))
  | text (w : Wording) : Holds .text (.text w)

theorem holds_integer_iff {n : Int} : Holds .integer (.number n) ↔ -2147483648 ≤ n ∧ n ≤ 2147483647 :=
  ⟨fun | .integer least greatest => ⟨least, greatest⟩, fun h => .integer h.1 h.2⟩

theorem holds_varchar_iff {length : Nat} {w : Wording} : Holds (.varchar length) (.text w) ↔ w.length ≤ length :=
  ⟨fun | .varchar short => short, .varchar⟩

end ColumnType

namespace Default

/-- The value is within the bounds that are not kept: the length of an address and the size of a number. -/
structure WithinBounds (type : FieldType) (v : Wording) (value : DefaultValue) : Prop where
  address : type = .email → v.length ≤ maxLength
  number : ∀ n, value = .number n → -2147483648 ≤ n ∧ n ≤ 2147483647

theorem holds_iff_withinBounds {type : FieldType} {v : Wording} {value : DefaultValue} (h : coerce type v = .ok value) :
    type.columnType.Holds value ↔ WithinBounds type v value := by
  cases type with
  | string =>
    obtain ⟨rfl, hshort⟩ := eq_text_of_coerce (.inl rfl) h
    exact iff_of_true (.varchar (hshort rfl)) ⟨nofun, nofun⟩
  | number =>
    obtain ⟨n, rfl⟩ : ∃ n, value = .number n := ⟨_, number_eq_ok h⟩
    rw [show FieldType.number.columnType = .integer from rfl, ColumnType.holds_integer_iff]
    exact ⟨fun hn => ⟨nofun, fun m heq => DefaultValue.number.inj heq ▸ hn⟩, fun hn => hn.number n rfl⟩
  | boolean =>
    obtain ⟨b, rfl⟩ := boolean_eq_ok h
    exact iff_of_true (.boolean b) ⟨nofun, nofun⟩
  | date =>
    obtain ⟨y, m, d, hreal, -, rfl⟩ := date_text h
    exact iff_of_true (.date hreal) ⟨nofun, nofun⟩
  | email =>
    obtain ⟨rfl, -⟩ := eq_text_of_coerce (.inr (.inl rfl)) h
    rw [show FieldType.email.columnType = .varchar maxLength from rfl, ColumnType.holds_varchar_iff]
    exact ⟨fun hshort => ⟨fun _ => hshort, nofun⟩, fun hwithin => hwithin.address rfl⟩
  | text =>
    obtain ⟨rfl, -⟩ := eq_text_of_coerce (.inr (.inr rfl)) h
    exact iff_of_true (.text v) ⟨nofun, nofun⟩

end Default

namespace Schema

theorem Accepted.column_of_default {s : Schema} (h : s.Accepted) {f : Field} (hf : f ∈ s.dataFields) {v : Wording}
    {value : DefaultValue} (hdefault : f.default? = some v) (hvalue : coerce f.type v = .ok value) : ∃ t c,
    s.table = .ok t ∧ c ∈ t.columns ∧ c.name = f.name.shown ∧ c.type = f.type.columnType ∧
      c.default? = some (.ofValue value) := by
  obtain ⟨columns, hcolumns, htable⟩ := h.table_eq_ok
  have hcolumn : f.column = .ok ⟨f.name.shown, f.type.columnType, !f.required, false, some (.ofValue value)⟩ := by
    rw [Field.column, Field.coerced_eq_some_iff.2 ⟨v, hdefault, hvalue⟩]
    rfl
  have hmem := Sequence.mem_of_mapM hcolumns hf hcolumn
  exact ⟨_, _, htable, List.mem_cons_of_mem _ hmem, rfl, rfl, rfl⟩

/-- **A column holds its default exactly if an address is not too long and a number not too large.**  Table and model
have the same type of column for the type of a field.  In the table of a schema without errors the default of a data
field is the default of its column, so that nothing else keeps it within bounds. -/
theorem column_holds_iff {type : FieldType} {v : Wording} {value : DefaultValue} (h : coerce type v = .ok value) :
    type.mapping.storage.columnType = type.columnType ∧
    (type.columnType.Holds value ↔ WithinBounds type v value) ∧
    ∀ (threshold : Int) (s : Schema), (s.validate threshold).errors = [] → ∀ f ∈ s.dataFields, f.type = type →
      f.default? = some v → ∃ t c, s.table = .ok t ∧ c ∈ t.columns ∧ c.name = f.name.shown ∧
        c.type = type.columnType ∧ c.default? = some (.ofValue value) := by
  refine ⟨by cases type <;> rfl, holds_iff_withinBounds h, fun threshold s haccepted f hf htype hdefault => ?_⟩
  subst htype
  exact ((errors_eq_nil_iff threshold s).1 haccepted).column_of_default hf hdefault h

def contact (type : FieldType) (default : String) : Schema :=
  { entityName := "Contact",
    fields := [{ id := "1", name := "detail", type := type, default? := some (default : Wording) }] }

theorem accepted_contact {type : FieldType} {default : String} {value : DefaultValue}
    (h : coerce type default = .ok value) : (contact type default).Accepted := by
  have hentity : isIdentifier ("Contact" : Wording) = true := by decide
  have hname : isIdentifier ("detail" : Wording) = true := by decide
  exact { entity := hentity, nonempty := List.cons_ne_nil _ _, distinct := List.nodup_singleton _,
          names := List.forall_mem_singleton.2 hname,
          defaults := List.forall_mem_singleton.2 (fun _ => ⟨_, Field.coerced_eq_some_iff.2 ⟨_, rfl, h⟩⟩) }

theorem leap_day_held : ∃ t c, (contact .date " 2024-02-29 ").table = .ok t ∧ c ∈ t.columns ∧ c.type = .date ∧
    c.default? = some (.literal "2024-02-29") ∧ ColumnType.date.Holds (.text "2024-02-29") := by
  have hvalue : coerce .date " 2024-02-29 " = .ok (.text "2024-02-29") := by decide +kernel
  obtain ⟨-, hholds, hcolumn⟩ := column_holds_iff hvalue
  have haccepted := (errors_eq_nil_iff defaultThreshold _).2 (accepted_contact hvalue)
  obtain ⟨t, c, htable, hc, -, htype, hdefault⟩ := hcolumn defaultThreshold _ haccepted _ List.mem_cons_self rfl rfl
  exact ⟨t, c, htable, hc, htype, hdefault, hholds.2 ⟨nofun, nofun⟩⟩

def address (n : Nat) : String := String.ofList (List.replicate n 'a' ++ "@b.cd".toList)

theorem length_address (n : Nat) : (address n : Wording).length = n + 5 := by
  simp [Wording.length, Wording.ofText, address]

theorem coerce_address {n : Nat} (hn : n ≠ 0) : coerce .email (address n) = .ok (.text (address n)) := by
  have hshown : (address n : Wording).shown.toList = List.replicate n 'a' ++ '@' :: "b.cd".toList := by
    rw [Wording.shown_ofText, address, String.toList_ofList]
    rfl
  have hmem : ∀ c ∈ List.replicate n 'a' ++ '@' :: "b.cd".toList, c ∈ "a@b.cd".toList := fun c hc => by
    rcases List.mem_append.1 hc with hc | hc
    · rw [List.eq_of_mem_replicate hc]
      decide
    · exact List.mem_cons_of_mem _ hc
  have hink : (List.replicate n 'a' ++ '@' :: "b.cd".toList).any isBlank = false := by
    have hall : "a@b.cd".toList.any isBlank = false := by decide
    exact List.any_eq_false.2 (fun c hc => List.any_eq_false.1 hall c (hmem c hc))
  have hdrop : dropFinalNewline (List.replicate n 'a' ++ '@' :: "b.cd".toList) =
      List.replicate n 'a' ++ '@' :: "b.cd".toList := by
    rcases dropFinalNewline_cases (List.replicate n 'a' ++ '@' :: "b.cd".toList) with h | h
    · exact h
    · have hfeed := hmem '\n' (by rw [h]; simp)
      exact absurd hfeed (by decide)
  have hsplit : split '@' (List.replicate n 'a' ++ '@' :: "b.cd".toList) = [List.replicate n 'a', "b.cd".toList] := by
    rw [split_append_cons (fun h => absurd (List.eq_of_mem_replicate h) (by decide))]
    rfl
  have hemail : isEmail (List.replicate n 'a' ++ '@' :: "b.cd".toList) = true := by
    simp only [isEmail, hsplit, hink]
    simp [hn]
    decide
  rw [coerce, hshown, hdrop, if_pos hemail]

/-- **An address that is too long for its column is accepted**, and so is a number that is too large. -/
theorem long_address_accepted : ((contact .email (address 251)).validate defaultThreshold).errors = [] ∧
    coerce .email (address 251) = .ok (.text (address 251)) ∧
    ¬ FieldType.email.columnType.Holds (.text (address 251)) ∧
    ((contact .number "2147483648").validate defaultThreshold).errors = [] ∧
    coerce .number "2147483648" = .ok (.number 2147483648) ∧
    ¬ FieldType.number.columnType.Holds (.number 2147483648) := by
  have hvalue := coerce_address (n := 251) (by decide)
  have hnumber : coerce .number "2147483648" = .ok (.number 2147483648) := by decide +kernel
  refine ⟨(errors_eq_nil_iff _ _).2 (accepted_contact hvalue), hvalue, fun h => ?_,
    (errors_eq_nil_iff _ _).2 (accepted_contact hnumber), hnumber, fun h => ?_⟩
  · have hlength := ColumnType.holds_varchar_iff.1 h
    rw [length_address] at hlength
    exact absurd hlength (by decide)
  · exact absurd (ColumnType.holds_integer_iff.1 h) (by decide)

end Schema
end Scaffold
