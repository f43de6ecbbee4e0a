import Scaffold.Interpreter.Template
import Scaffold.Proofs.Artifact.Dependence
import Scaffold.Proofs.Schema.Gate
import Scaffold.Proofs.Schema.Ids
/-!
# Proofs.Interpreter.Template — the starter schema

The answer of the interpreter that needs no service always makes a schema: the starter fields under fresh ids, with the
entity and the operations of the hints (`createFromData_starter`).  Its report is about the name of the entity and about
the operations alone: nothing but an entity that is no identifier stands in the way of the artifacts
(`exists_run_drawnSchema`).
-/
namespace Scaffold

theorem Operations.anyEnabled_eq_true_iff {ops : Operations} :
    ops.anyEnabled = true ↔ ∃ op, ops.enabled op = true := by
  simp only [Operations.anyEnabled, Bool.or_eq_true]
  constructor
  · rintro (((h | h) | h) | h)
    · exact ⟨.create, h⟩
    · exact ⟨.read, h⟩
    · exact ⟨.update, h⟩
    · exact ⟨.delete, h⟩
  · rintro ⟨op, hop⟩
    cases op <;> simp_all [Operations.enabled]

/-! ## The name of the entity -/

namespace Wording

open Naming

/-- **The wording without the white space at its ends.** -/
structure Stripped (w e : Wording) : Prop where
  around : ∃ before after, w.signs = before ++ e.signs ++ after ∧ ∀ x ∈ before ++ after, isBlankSign x = true
  first : ∀ x, e.signs.head? = some x → isBlankSign x = false
  last : ∀ x, e.signs.getLast? = some x → isBlankSign x = false

theorem head?_dropWhile {l : List Text.Sign} {x : Text.Sign} (h : (l.dropWhile isBlankSign).head? = some x) :
    isBlankSign x = false := by
  have hnot := List.head?_dropWhile_not isBlankSign l
  rw [h] at hnot
  simpa using hnot

theorem stripped_trimmed (w : Wording) : w.Stripped w.trimmed := by
  let inner := w.signs.dropWhile isBlankSign
  let core := inner.reverse.dropWhile isBlankSign
  have hinner : inner = core.reverse ++ (inner.reverse.takeWhile isBlankSign).reverse := by
    rw [← List.reverse_append, List.takeWhile_append_dropWhile, List.reverse_reverse]
  refine ⟨⟨w.signs.takeWhile isBlankSign, (inner.reverse.takeWhile isBlankSign).reverse, ?_, fun x hx => ?_⟩,
    fun x hx => ?_, fun x hx => ?_⟩
  · show w.signs = w.signs.takeWhile isBlankSign ++ core.reverse ++ (inner.reverse.takeWhile isBlankSign).reverse
    rw [List.append_assoc, ← hinner, List.takeWhile_append_dropWhile]
  · rw [List.mem_append, List.mem_reverse] at hx
    exact hx.elim List.mem_takeWhile_imp List.mem_takeWhile_imp
  · have hcore : core.reverse.head? = some x := hx
    refine head?_dropWhile (l := w.signs) ?_
    show inner.head? = some x
    rw [hinner, List.head?_append, hcore]
    rfl
  · refine head?_dropWhile (l := inner.reverse) ?_
    rwa [← List.getLast?_reverse]

end Wording

namespace Template

open Naming Wording

theorem entityName_eq (h : Hints) : ∃ stripped, (h.entityName?.getD "").Stripped stripped ∧
    entityName h = if stripped.isEmpty then (defaultEntity : Wording) else stripped :=
  ⟨_, stripped_trimmed _, rfl⟩

theorem stripped_entityName (h : Hints) : (entityName h).Stripped (entityName h) ∧ (entityName h).signs ≠ [] := by
  obtain ⟨stripped, hstripped, hname⟩ := entityName_eq h
  by_cases hempty : stripped.isEmpty
  · rw [hname, if_pos hempty]
    exact ⟨⟨⟨[], [], rfl, by simp⟩, by rintro _ ⟨⟩; rfl, by rintro _ ⟨⟩; rfl⟩, by decide⟩
  · rw [hname, if_neg hempty]
    exact ⟨⟨⟨[], [], by simp, by simp⟩, hstripped.first, hstripped.last⟩, fun hnil => hempty (List.isEmpty_iff.2 hnil)⟩

theorem entityName_not_blank (h : Hints) : (Text.trim (entityName h).shown.toList).isEmpty = false := by
  obtain ⟨hstripped, hne⟩ := stripped_entityName h
  obtain ⟨x, rest, hsigns⟩ := List.exists_cons_of_ne_nil hne
  have hfirst : isBlankSign x = false := hstripped.first x (by rw [hsigns]; rfl)
  have hshown : Text.isBlank x.shown = false := by
    cases x with
    | char c => exact hfirst
    | half n => rfl
  rw [Bool.eq_false_iff, Ne, List.isEmpty_iff, Text.trim_eq_nil_iff]
  intro hblank
  have hx := hblank x.shown (by rw [shown, String.toList_ofList, hsigns]; exact List.mem_cons_self)
  rw [hshown] at hx
  cases hx

theorem isIdentifier_entityName_iff (h : Hints) :
    Schema.isIdentifier (entityName h) = true ↔ (entityName h).In identifiers := by
  rw [in_identifiers_iff, and_iff_left]
  intro hfeed
  have hlast := (stripped_entityName h).1.last _ hfeed
  cases hlast

/-! ## The schema -/

def starterRows : List Field :=
  [{ id := "", name := "id", label := "ID", type := .number, required := true },
   { id := "", name := "title", label := "Title", required := true },
   { id := "", name := "author", label := "Author", required := true },
   { id := "", name := "publication_year", label := "Publication Year", type := .number },
   { id := "", name := "stock", label := "Stock", type := .number, default? := some ("0" : Wording) }]

def starterSchema (h : Hints) : Schema :=
  { entityName := entityName h, fields := starterRows, operations := h.operations }

/-- **The starter schema under the next ids.** -/
def drawnSchema (supply : Supply) (h : Hints) : Schema :=
  (starterSchema h).withFields (List.zipWith (fun id f => { f with id := id }) (supply.upcoming 5) starterRows)

theorem createFromData_starter (supply : Supply) (h : Hints) :
    Schema.createFromData supply (starter h) = (.ok (drawnSchema supply h), supply.after 5) := rfl

theorem withoutIds_drawnSchema (supply : Supply) (h : Hints) : (drawnSchema supply h).withoutIds = starterSchema h :=
  rfl

/-! ## The report -/

theorem accepted_starterSchema {h : Hints} (hname : Schema.isIdentifier (entityName h) = true) :
    (starterSchema h).Accepted where
  entity := hname
  nonempty := List.cons_ne_nil _ _
  distinct := show (starterRows.map (fun f => f.name.lower)).Nodup by decide
  names := show ∀ f ∈ starterRows, Schema.isIdentifier f.name = true by decide
  defaults := by
    show ∀ f ∈ starterRows, f.namesIdentity = false → ∃ v, f.coerced = .ok v
    simp only [starterRows, List.forall_mem_cons]
    exact ⟨fun _ => ⟨_, rfl⟩, fun _ => ⟨_, rfl⟩, fun _ => ⟨_, rfl⟩, fun _ => ⟨_, rfl⟩, fun _ => ⟨_, rfl⟩,
      List.forall_mem_nil _⟩

theorem errors_starterSchema (threshold : Int) (h : Hints) : ((starterSchema h).validate threshold).errors =
    if Schema.isIdentifier (entityName h) then [] else [.entityNameInvalid (entityName h)] := by
  have hentity : (starterSchema h).entityNameErrors =
      if Schema.isIdentifier (entityName h) then [] else [.entityNameInvalid (entityName h)] := by
    rw [Schema.entityNameErrors, starterSchema, entityName_not_blank, if_neg Bool.false_ne_true]
  -- The other checks look at the fields alone, and these pass under another name.
  have hbook : ((starterSchema {}).validate threshold).errors = [] :=
    (Schema.errors_eq_nil_iff _ _).2 (accepted_starterSchema (by decide))
  simp only [Schema.validate, List.append_eq_nil_iff] at hbook
  obtain ⟨⟨⟨⟨-, hfields⟩, hduplicates⟩, hnames⟩, hdefaults⟩ := hbook
  show (starterSchema h).entityNameErrors ++ (starterSchema {}).noFieldErrors ++
    (starterSchema {}).duplicateNameErrors ++ (starterSchema {}).fieldNameErrors ++ (starterSchema {}).defaultErrors = _
  simp only [hentity, hfields, hduplicates, hnames, hdefaults, List.append_nil]

theorem warnings_starterSchema (threshold : Int) (h : Hints) : ((starterSchema h).validate threshold).warnings =
    (if h.operations.read ∧ threshold < 5 then [.paginationRecommended 5 threshold] else []) ++
      (if h.operations.anyEnabled then [] else [.noOperations]) := by
  have hrelation : (starterSchema {}).relationWarnings = [] := by decide
  have htext : (starterSchema {}).requiredTextWarnings = [] := by decide
  have hidentity : (starterSchema {}).identityTypeWarnings = [] := by decide
  have hpagination : (starterSchema h).paginationWarnings threshold =
      if h.operations.read ∧ threshold < 5 then [.paginationRecommended 5 threshold] else [] := by
    simp [Schema.paginationWarnings, starterSchema, starterRows]
  show (starterSchema {}).relationWarnings ++ (starterSchema {}).requiredTextWarnings ++
    (starterSchema h).paginationWarnings threshold ++ (if h.operations.anyEnabled then [] else [.noOperations]) ++
    (starterSchema {}).identityTypeWarnings = _
  rw [hrelation, htext, hidentity, hpagination, List.append_nil]
  rfl

theorem run_drawnSchema (threshold : Int) (supply : Supply) (h : Hints) :
    (drawnSchema supply h).run threshold = (starterSchema h).run threshold := by
  rw [← Schema.run_withoutIds, withoutIds_drawnSchema supply h]

theorem warnings_of_threshold {threshold : Int} (hthreshold : 5 ≤ threshold) (h : Hints) :
    ((starterSchema h).validate threshold).warnings = if h.operations.anyEnabled then [] else [.noOperations] := by
  rw [warnings_starterSchema, if_neg (fun hread => Int.not_le.2 hread.2 hthreshold), List.nil_append]

theorem warnings_idle {threshold : Int} (hthreshold : 5 ≤ threshold) {h : Hints}
    (hnone : ∀ op, h.operations.enabled op = false) :
    ((starterSchema h).validate threshold).warnings = [.noOperations] := by
  have hany : h.operations.anyEnabled = false := by
    rw [Bool.eq_false_iff, Ne, Operations.anyEnabled_eq_true_iff]
    rintro ⟨op, hop⟩
    rw [hnone op] at hop
    cases hop
  rw [warnings_of_threshold hthreshold, hany]
  rfl

theorem warnings_busy {threshold : Int} (hthreshold : 5 ≤ threshold) {h : Hints} {op : Operation}
    (hop : h.operations.enabled op = true) : ((starterSchema h).validate threshold).warnings = [] := by
  rw [warnings_of_threshold hthreshold, if_pos (Operations.anyEnabled_eq_true_iff.2 ⟨op, hop⟩)]

/-- **What is reported about the starter schema.**  It depends on the name of the entity whether there are artifacts,
and where the threshold is not below the count of the starter fields, on the operations whether there is a warning. -/
structure StarterReport (threshold : Int) (h : Hints) (s : Schema) (o : Outcome) : Prop where
  success : o.success = true ↔ (entityName h).In identifiers
  made : o.success = true → o.errors = [] ∧ ∃ b, s.compile = .ok b ∧ o.files? = some b
  refused : o.success = false → o.errors = [.entityNameInvalid (entityName h)] ∧ o.files? = none
  idle : 5 ≤ threshold → (∀ op, h.operations.enabled op = false) → o.warnings = [.noOperations]
  busy : 5 ≤ threshold → ∀ op, h.operations.enabled op = true → o.warnings = []

/-- **The starter schema always has a report**: no artifact of it is impossible. -/
theorem exists_run_drawnSchema (threshold : Int) (supply : Supply) (h : Hints) : ∃ o,
    (drawnSchema supply h).run threshold = .ok o ∧ StarterReport threshold h (drawnSchema supply h) o := by
  have hcompile : (drawnSchema supply h).compile = (starterSchema h).compile := by
    rw [← Schema.compile_withoutIds, withoutIds_drawnSchema supply h]
  have herrors := errors_starterSchema threshold h
  rw [run_drawnSchema]
  by_cases hname : Schema.isIdentifier (entityName h) = true
  · rw [if_pos hname] at herrors
    have hfit : (starterSchema h).IndexNamesFit := List.forall_mem_nil _
    obtain ⟨b, hb⟩ := (accepted_starterSchema hname).exists_compile_eq_ok_iff.2 hfit
    refine ⟨⟨true, [], ((starterSchema h).validate threshold).warnings, some b⟩, ?_, ?_⟩
    · rw [Schema.run_of_accepted herrors, hb]
      rfl
    · exact
        { success := iff_of_true rfl ((isIdentifier_entityName_iff h).1 hname)
          made := fun _ => ⟨rfl, b, hcompile.trans hb, rfl⟩
          refused := fun hfailed => absurd hfailed (by simp)
          idle := fun hthreshold hnone => warnings_idle hthreshold hnone
          busy := fun hthreshold _ => warnings_busy hthreshold }
  · rw [if_neg hname] at herrors
    refine ⟨⟨false, [.entityNameInvalid (entityName h)], ((starterSchema h).validate threshold).warnings, none⟩, ?_, ?_⟩
    · rw [Schema.run_of_errors (by simp [herrors]), herrors]
    · exact
        { success := iff_of_false Bool.false_ne_true (fun hin => hname ((isIdentifier_entityName_iff h).2 hin))
          made := fun hmade => absurd hmade Bool.false_ne_true
          refused := fun _ => ⟨rfl, rfl⟩
          idle := fun hthreshold hnone => warnings_idle hthreshold hnone
          busy := fun hthreshold _ => warnings_busy hthreshold }

end Template
end Scaffold
