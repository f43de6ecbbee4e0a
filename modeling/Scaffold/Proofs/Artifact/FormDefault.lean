import Scaffold.Proofs.Artifact.ComponentText
import Scaffold.Proofs.Artifact.ModelDefault
import Scaffold.Proofs.Schema.Spelling
/-!
# Proofs.Artifact.FormDefault — what a form starts with

The empty form of a component is read entry by entry.  A truth value is the one that the default stands for, but the
other defaults are entered as they were spelled: the value of an entry is what the column has as its default exactly if
the default is spelled as it is written (`form_starts_with_default_iff`).
-/
namespace Scaffold

open Default Source Text

/-- **What an entry of the form holds**: a truth value, or a text of 16-bit units. -/
inductive FormValue where
  | flag (b : Bool)
  | text (units : List Nat)
deriving DecidableEq, Repr

namespace FormValue

def read? : List Token → Option FormValue
  | [.word w, .mark ','] =>
    if w = "true".toList then some (.flag true) else if w = "false".toList then some (.flag false) else none
  | [.quoted '"' l, .mark ','] => (decode .component l).map .text
  | _ => none

def ofWording (w : Wording) : FormValue := .text (w.points.flatMap unitsOf)

def ofDefault : DefaultValue → FormValue
  | .flag b => .flag b
  | value => ofWording value.written

theorem ofDefault_of_ne_flag {value : DefaultValue} (h : ∀ b, value ≠ .flag b) :
    ofDefault value = ofWording value.written := by
  cases value with
  | flag b => exact absurd rfl (h b)
  | text w => rfl
  | number n => rfl

theorem read?_literal (w : Wording) :
    read? [.quoted '"' (w.signs.flatMap literalSign), .mark ','] = some (ofWording w) := by
  rw [read?, decode_literal]
  rfl

theorem toNat_of_numerical {c : Char} (h : IsNumerical c) : c.toNat < 128 := by
  rcases h with rfl | h
  · decide
  · simp only [isDigitAscii, Bool.and_eq_true, decide_eq_true_eq] at h
    omega

/-- **Signs with the units of such characters are these characters**: neither half of a pair nor a pair has them. -/
theorem signs_eq_of_units : ∀ {signs : List Sign} {l : List Char}, (∀ c ∈ l, IsNumerical c) →
    (signs.map Sign.point).flatMap unitsOf = l.map Char.toNat → signs = l.map Sign.char
  | [], [], _, _ => rfl
  | [], c :: l, _, h => by cases h
  | s :: signs, l, hl, h => by
    rw [List.map_cons, List.flatMap_cons] at h
    cases l with
    | nil => exact absurd (List.append_eq_nil_iff.1 h).1 (unitsOf_ne_nil _)
    | cons c l =>
      obtain ⟨hc, hl⟩ := List.forall_mem_cons.1 hl
      have hsmall := toNat_of_numerical hc
      by_cases hone : s.point < 0x10000
      · rw [unitsOf, if_pos hone] at h
        obtain ⟨hs, hrest⟩ := List.cons.inj h
        rw [List.map_cons, signs_eq_of_units hl hrest]
        cases s with
        | char d => rw [Char.toNat_inj.1 hs]
        | half n =>
          simp only [Sign.point, firstHalf] at hs
          omega
      · rw [unitsOf, if_neg hone] at h
        have hs := (List.cons.inj h).1
        omega

theorem ofWording_eq_iff {v : Wording} {l : List Char} (hl : ∀ c ∈ l, IsNumerical c) :
    ofWording v = ofWording (String.ofList l) ↔ v = String.ofList l := by
  refine ⟨fun h => ?_, fun h => h ▸ rfl⟩
  have hunits : (Wording.ofText (String.ofList l)).points.flatMap unitsOf = l.map Char.toNat := by
    rw [Wording.points, Wording.points_ofText, String.toList_ofList, unitsOf_eq_self_iff]
    refine List.forall_mem_map.2 (fun c hc => ?_)
    have := toNat_of_numerical (hl c hc)
    omega
  have hsigns := signs_eq_of_units hl ((FormValue.text.inj h).trans hunits)
  obtain ⟨signs⟩ := v
  rw [Wording.ofText, String.toList_ofList]
  exact congrArg Wording.mk hsigns

/-- **The spelling of a default is what it stands for exactly if it is spelled as it is written.** -/
theorem ofWording_eq_ofDefault_iff {type : FieldType} {v : Wording} {value : DefaultValue} (htype : type ≠ .boolean)
    (h : coerce type v = .ok value) : ofWording v = ofDefault value ↔ SpelledAsWritten type v := by
  obtain ⟨hflag, ⟨hwritten, hspelled⟩ | ⟨l, hwritten, hl, hspelled⟩⟩ := written_cases htype h
  · rw [ofDefault_of_ne_flag hflag, hwritten]
    exact iff_of_true rfl hspelled
  · rw [ofDefault_of_ne_flag hflag, hwritten, ofWording_eq_iff hl, Wording.eq_ofList_iff hl]
    exact hspelled

end FormValue

namespace Field

variable {f : Field} {e : List Char × List Token}

theorem HasEntry.read?_of_ne_boolean (h : f.HasEntry e) (htype : f.type ≠ .boolean) :
    FormValue.read? e.2 = some (.ofWording (f.default?.getD "")) := by
  have hv : f.initialValue = .ok (quoted (f.default?.getD "")) := if_neg htype
  rw [h.eq_of_initialValue hv (reads_quoted _), List.singleton_append, FormValue.read?_literal]

theorem HasEntry.read?_of_boolean (h : f.HasEntry e) (htype : f.type = .boolean) {b : Bool}
    (hvalue : f.coerced = .ok (some (.flag b))) : FormValue.read? e.2 = some (.flag b) := by
  have hv : f.initialValue = .ok (if b then "true" else "false") := by
    rw [initialValue, if_pos htype, hvalue]
    cases b <;> rfl
  cases b with
  | true =>
    rw [h.eq_of_initialValue hv (Reads.of_whole rfl : Reads .escaped "true".toList [.word "true".toList])]
    rfl
  | false =>
    rw [h.eq_of_initialValue hv (Reads.of_whole rfl : Reads .escaped "false".toList [.word "false".toList])]
    rfl

theorem HasEntry.read?_eq_iff (h : f.HasEntry e) {v : Wording} {value : DefaultValue} (hdefault : f.default? = some v)
    (hvalue : coerce f.type v = .ok value) :
    FormValue.read? e.2 = some (.ofDefault value) ↔ SpelledAsWritten f.type v := by
  by_cases htype : f.type = .boolean
  · have hcoerced := coerced_eq_some_iff.2 ⟨v, hdefault, hvalue⟩
    rw [htype] at hvalue ⊢
    obtain ⟨b, rfl⟩ := boolean_eq_ok hvalue
    exact iff_of_true (h.read?_of_boolean htype hcoerced) trivial
  · rw [h.read?_of_ne_boolean htype, hdefault, Option.getD_some, Option.some.injEq]
    exact FormValue.ofWording_eq_ofDefault_iff htype hvalue

end Field

namespace Schema

/-- **The form starts with the defaults of the columns where they are spelled as they are written.**  Behind the lines
before the form its entries are read one by one, one for each data field in declared order and under the literal of its
name.  The value of an entry is what the default stands for, and the default of the column, exactly if the default is
spelled so: a number as a numeral without a plus or a zero too many, a date without white space around it.  Truth values
and the other texts always agree. -/
theorem form_starts_with_default_iff {s : Schema} {text : String} (h : s.component = .ok text)
    (hform : s.operations.hasForm = true) : ∃ form, text = "\n".intercalate s.componentPreamble ++ "\n" ++ form ∧
      List.Forall₂ (fun f e => e.1 = f.name.signs.flatMap literalSign ∧
        ∀ v value, f.default? = some v → coerce f.type v = .ok value →
          (∃ c, f.column = .ok c ∧ c.default? = some (.ofValue value)) ∧
          (FormValue.read? e.2 = some (.ofDefault value) ↔ SpelledAsWritten f.type v))
        s.dataFields (entries (emptyForm form)) := by
  obtain ⟨form, htext, hentries⟩ := component_entries h hform
  refine ⟨form, htext, hentries.imp (fun f e he => ⟨he.key_eq, fun v value hdefault hvalue => ⟨?_, ?_⟩⟩)⟩
  · rw [Field.column, Field.coerced_eq_some_iff.2 ⟨v, hdefault, hvalue⟩]
    exact ⟨_, rfl, rfl⟩
  · exact he.read?_eq_iff hdefault hvalue

def stocked (stock : String) : Schema :=
  { entityName := "Book",
    fields := [{ id := "1", name := "stock", type := .number, default? := some (stock : Wording) }] }

theorem stock_entered : ∃ text form e, (stocked "-7").component = .ok text ∧
    text = "\n".intercalate (stocked "-7").componentPreamble ++ "\n" ++ form ∧ entries (emptyForm form) = [e] ∧
      e.1 = "stock".toList ∧ FormValue.read? e.2 = some (.ofDefault (.number (-7))) := by
  have haccepted : (stocked "-7").Accepted := (errors_eq_nil_iff defaultThreshold _).1 (by decide +kernel)
  obtain ⟨text, htext⟩ := haccepted.exists_component_eq_ok
  obtain ⟨form, hform, hentries⟩ := form_starts_with_default_iff htext rfl
  have hfields : (stocked "-7").dataFields = (stocked "-7").fields := by decide +kernel
  rw [hfields] at hentries
  obtain ⟨e, _, ⟨hkey, he⟩, hnil, hlist⟩ := List.forall₂_cons_left_iff.1 hentries
  obtain rfl := List.forall₂_nil_left_iff.1 hnil
  have hnumeral : SpelledAsWritten .number "-7" := .inr ⟨['7'], by decide, isNumeral_numeral 7, by decide⟩
  exact ⟨text, form, e, htext, hform, hlist, hkey.trans (by decide),
    (he "-7" (.number (-7)) rfl (by decide +kernel)).2.2 hnumeral⟩

/-- **A number with a plus and zeros is entered as it was spelled**, not as the number that it is. -/
theorem stock_spelled_otherwise : coerce .number " +007 " = .ok (.number 7) ∧ ∃ text form e,
    (stocked " +007 ").component = .ok text ∧
    text = "\n".intercalate (stocked " +007 ").componentPreamble ++ "\n" ++ form ∧ entries (emptyForm form) = [e] ∧
      e.1 = "stock".toList ∧ FormValue.read? e.2 = some (.ofWording " +007 ") ∧
      FormValue.read? e.2 ≠ some (.ofDefault (.number 7)) := by
  have hvalue : coerce .number " +007 " = .ok (.number 7) := by decide +kernel
  have haccepted : (stocked " +007 ").Accepted := (errors_eq_nil_iff defaultThreshold _).1 (by decide +kernel)
  obtain ⟨text, htext⟩ := haccepted.exists_component_eq_ok
  obtain ⟨form, hform, hentries⟩ := component_entries htext rfl
  have hfields : (stocked " +007 ").dataFields = (stocked " +007 ").fields := by decide +kernel
  rw [hfields] at hentries
  obtain ⟨e, _, he, hnil, hlist⟩ := List.forall₂_cons_left_iff.1 hentries
  obtain rfl := List.forall₂_nil_left_iff.1 hnil
  have hread := he.read?_of_ne_boolean (by decide)
  exact ⟨hvalue, text, form, e, htext, hform, hlist, he.key_eq.trans (by decide), hread,
    fun heq => absurd (Option.some.inj (hread.symm.trans heq)) (by decide)⟩

end Schema
end Scaffold
