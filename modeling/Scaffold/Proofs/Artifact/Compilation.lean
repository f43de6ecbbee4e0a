import Scaffold.Artifact.Bundle
import Scaffold.Proofs.Artifact.Table
/-!
# Proofs.Artifact.Compilation — which schemas compile

The checks foresee every fault of the four artifacts but one: an index name that is too long.  An accepted schema has
its model, its service and its component, whatever its names, types and defaults; it has its script, and so compiles,
exactly if every index name fits (`run_spec`).
-/
namespace Scaffold

theorem Field.exists_mappedColumn_eq_ok {f : Field} (attr : String) (h : ∃ v, f.coerced = .ok v) :
    ∃ c, f.mappedColumn attr = .ok c := by
  obtain ⟨v, hv⟩ := h
  exact ⟨_, Sequence.map_eq_ok_iff.2 ⟨v, hv, rfl⟩⟩

theorem Field.exists_formEntry_eq_ok {f : Field} (h : ∃ v, f.coerced = .ok v) : ∃ entry, f.formEntry = .ok entry := by
  obtain ⟨v, hv⟩ := h
  have hinitial : ∃ text, f.initialValue = .ok text := by
    unfold initialValue
    rw [hv]
    split
    · split
      · rename_i hcontra
        cases hcontra
      · exact ⟨_, rfl⟩
      · exact ⟨_, rfl⟩
    · exact ⟨_, rfl⟩
  obtain ⟨text, htext⟩ := hinitial
  exact ⟨_, Sequence.map_eq_ok_iff.2 ⟨text, htext, rfl⟩⟩

namespace Schema

theorem mem_dataFields_of_mem_attributes {s : Schema} {p : Field × String} (h : p ∈ s.attributes) :
    p.1 ∈ s.dataFields := by
  obtain ⟨f, hf, rfl⟩ := List.mem_map.1 h
  exact hf

def IndexNamesFit (s : Schema) : Prop := ∀ name ∈ s.indexNames, name.length ≤ Table.maxIdentifier

instance (s : Schema) : Decidable s.IndexNamesFit := inferInstanceAs (Decidable (∀ name ∈ s.indexNames, _))

theorem forall_mem_indexes_iff (s : Schema) (p : String → Prop) :
    (∀ i ∈ (s.dataFields.filter Field.indexed).map (Table.indexOf s.tableName), p i.name) ↔
      ∀ name ∈ s.indexNames, p name := by
  simp only [indexNames, List.forall_mem_map]
  rfl

namespace Accepted

variable {s : Schema}

theorem exists_model_eq_ok (h : s.Accepted) : ∃ text, s.model = .ok text := by
  obtain ⟨columns, hcolumns⟩ := (Sequence.exists_mapM_eq_ok_iff (fun p => p.1.mappedColumn p.2) s.attributes).2
    (fun p hp => Field.exists_mappedColumn_eq_ok p.2 (h.coerced_eq_ok (mem_dataFields_of_mem_attributes hp)))
  simp only [model, modelLines, mappedColumns, hcolumns]
  exact ⟨_, rfl⟩

theorem exists_component_eq_ok (h : s.Accepted) : ∃ text, s.component = .ok text := by
  have hentries : ∃ entries, s.formEntries = .ok entries := by
    unfold formEntries
    split
    · exact (Sequence.exists_mapM_eq_ok_iff _ _).2 (fun f hf => Field.exists_formEntry_eq_ok (h.coerced_eq_ok hf))
    · exact ⟨[], rfl⟩
  obtain ⟨entries, hentries⟩ := hentries
  exact ⟨_, Sequence.map_eq_ok_iff.2 ⟨entries, hentries, rfl⟩⟩

/-- **An accepted schema has its script exactly if every index name fits.** -/
theorem exists_script_eq_ok_iff (h : s.Accepted) : (∃ text, s.script = .ok text) ↔ s.IndexNamesFit := by
  obtain ⟨columns, -, htable⟩ := h.table_eq_ok
  rw [IndexNamesFit, ← s.forall_mem_indexes_iff (fun name => name.length ≤ Table.maxIdentifier),
    ← Script.exists_statements_eq_ok_iff ⟨s.tableName, Table.identityColumn :: columns, _⟩]
  simp only [script, htable, Sequence.bind_eq_ok_iff, Except.ok.injEq]
  constructor
  · rintro ⟨_, _, rfl, l, hl, -⟩
    exact ⟨l, hl⟩
  · rintro ⟨l, hl⟩
    exact ⟨_, _, rfl, l, hl, rfl⟩

/-- **A script that cannot be written is refused for the least index name that is too long.** -/
theorem least_of_script_eq_error (h : s.Accepted) {e : TableError} (he : s.script = .error e) :
    ∃ name ∈ s.indexNames, e = .longIdentifier name ∧ Table.maxIdentifier < name.length ∧
      ∀ other ∈ s.indexNames, Table.maxIdentifier < other.length → name ≤ other := by
  obtain ⟨columns, -, htable⟩ := h.table_eq_ok
  simp only [script, htable, Sequence.bind_eq_error_iff, reduceCtorEq, Except.ok.injEq, false_or, and_false,
    exists_false, or_false, exists_eq_left'] at he
  obtain ⟨i, hi, rfl, hlong, hleast⟩ := Script.least_of_statements_eq_error he
  obtain ⟨f, hf, rfl⟩ := List.mem_map.1 hi
  exact ⟨_, List.mem_map.2 ⟨f, hf, rfl⟩, rfl, hlong,
    (s.forall_mem_indexes_iff (fun other => Table.maxIdentifier < other.length → _ ≤ other)).1 hleast⟩

theorem artifacts_eq (h : s.Accepted) : ∃ model component,
    s.artifacts = s.script.map (fun script => ⟨script, model, s.service, component⟩) := by
  obtain ⟨model, hmodel⟩ := h.exists_model_eq_ok
  obtain ⟨component, hcomponent⟩ := h.exists_component_eq_ok
  refine ⟨model, component, ?_⟩
  simp only [artifacts, hmodel, hcomponent]
  cases s.script <;> rfl

theorem exists_compile_eq_ok_iff (h : s.Accepted) : (∃ b, s.compile = .ok b) ↔ s.IndexNamesFit := by
  obtain ⟨model, component, hartifacts⟩ := h.artifacts_eq
  simp only [← h.exists_script_eq_ok_iff, compile, hartifacts, Sequence.mapError_eq_ok_iff, Sequence.map_eq_ok_iff]
  exact ⟨fun ⟨_, text, htext, _⟩ => ⟨text, htext⟩, fun ⟨text, htext⟩ => ⟨_, text, htext, rfl⟩⟩

theorem least_of_compile_eq_error (h : s.Accepted) {e : CompileError} (he : s.compile = .error e) :
    ∃ name ∈ s.indexNames, e = ⟨s.entityName, .longIdentifier name⟩ ∧ Table.maxIdentifier < name.length ∧
      ∀ other ∈ s.indexNames, Table.maxIdentifier < other.length → name ≤ other := by
  obtain ⟨model, component, hartifacts⟩ := h.artifacts_eq
  simp only [compile, hartifacts, Sequence.mapError_eq_error_iff, Sequence.map_eq_error_iff] at he
  obtain ⟨cause, hcause, rfl⟩ := he
  obtain ⟨name, hname, rfl, hlong, hleast⟩ := h.least_of_script_eq_error hcause
  exact ⟨name, hname, rfl, hlong, hleast⟩

end Accepted

theorem run_of_errors {threshold : Int} {s : Schema} (h : (s.validate threshold).errors ≠ []) :
    s.run threshold = .ok ⟨false, (s.validate threshold).errors, (s.validate threshold).warnings, none⟩ := by
  have hreport : (s.validate threshold).ok = false := by simpa [Report.ok] using h
  simp [run, hreport]

theorem run_of_accepted {threshold : Int} {s : Schema} (h : (s.validate threshold).errors = []) :
    s.run threshold = s.compile.map (fun b => ⟨true, [], (s.validate threshold).warnings, some b⟩) := by
  have hreport : (s.validate threshold).ok = true := by simpa [Report.ok] using h
  simp [run, hreport]

/-- **The result for every schema.**  With errors it is a failure without artifacts.  Without errors it is a success
with all four artifacts exactly if every index name fits; otherwise there is no result, and the least index name that is
too long is the reason. -/
theorem run_spec (threshold : Int) (s : Schema) :
    ((s.validate threshold).errors ≠ [] →
      s.run threshold = .ok ⟨false, (s.validate threshold).errors, (s.validate threshold).warnings, none⟩) ∧
    ((s.validate threshold).errors = [] → s.IndexNamesFit → ∃ b, s.compile = .ok b ∧
      s.run threshold = .ok ⟨true, [], (s.validate threshold).warnings, some b⟩) ∧
    ((s.validate threshold).errors = [] → ¬ s.IndexNamesFit → ∃ name ∈ s.indexNames,
      Table.maxIdentifier < name.length ∧
      (∀ other ∈ s.indexNames, Table.maxIdentifier < other.length → name ≤ other) ∧
      s.compile = .error ⟨s.entityName, .longIdentifier name⟩ ∧
      s.run threshold = .error ⟨s.entityName, .longIdentifier name⟩) := by
  refine ⟨run_of_errors, fun h hfit => ?_, fun h hlong => ?_⟩
  · obtain ⟨b, hb⟩ := ((errors_eq_nil_iff threshold s).1 h).exists_compile_eq_ok_iff.2 hfit
    exact ⟨b, hb, by rw [run_of_accepted h, hb]; rfl⟩
  · have hs := (errors_eq_nil_iff threshold s).1 h
    cases he : s.compile with
    | ok b => exact absurd (hs.exists_compile_eq_ok_iff.1 ⟨b, he⟩) hlong
    | error e =>
      obtain ⟨name, hname, rfl, hlen, hleast⟩ := hs.least_of_compile_eq_error he
      exact ⟨name, hname, hlen, hleast, rfl, by rw [run_of_accepted h, he]; rfl⟩

def longIndexed : Schema :=
  { entityName := "Book", fields := [{ id := "1", name := String.ofList (List.replicate 55 'a'), indexed := true }] }

/-- **Not every schema without errors compiles.** -/
theorem longIndexed_not_compiled : (longIndexed.validate defaultThreshold).errors = [] ∧
    longIndexed.compile = .error ⟨"Book", .longIdentifier ("ix_books_" ++ String.ofList (List.replicate 55 'a'))⟩ := by
  decide +kernel

end Schema
end Scaffold
