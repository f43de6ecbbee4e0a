import Scaffold.Artifact.Script
import Scaffold.Proofs.Schema.Acceptance
import Scaffold.Proofs.Sequence
/-!
# Proofs.Artifact.Table — when a table can be built and written

An accepted schema always has a table: the identity column and one column for each data field (`Accepted.table_eq_ok`).
Writing its statements comes to nothing only because an index name is too long, and then the refusal names the least
such name (`least_of_statements_eq_error`).
-/
namespace Scaffold
namespace Field

theorem name_of_column {f : Field} {c : Column} (h : f.column = .ok c) : c.name = f.name.shown := by
  obtain ⟨value, -, rfl⟩ := Sequence.map_eq_ok_iff.1 h
  rfl

theorem exists_column_eq_ok_iff (f : Field) : (∃ c, f.column = .ok c) ↔ ∃ v, f.coerced = .ok v := by
  simp only [column, Sequence.map_eq_ok_iff]
  exact ⟨fun ⟨_, v, hv, _⟩ => ⟨v, hv⟩, fun ⟨v, hv⟩ => ⟨_, v, hv, rfl⟩⟩

theorem names_of_columns : ∀ {l : List Field} {columns : List Column},
    List.Forall₂ (fun f c => column f = .ok c) l columns →
      columns.map Column.name = l.map (fun f => f.name.shown)
  | _, _, .nil => rfl
  | _, _, .cons h hs => by rw [List.map_cons, List.map_cons, name_of_column h, names_of_columns hs]

end Field

namespace Table

theorem fault?_eq_none_iff (table : String) : ∀ (columns : List Column) (present : List String),
    fault? table present columns = none ↔
      (∀ c ∈ columns, c.name ≠ "" ∧ c.name ∉ present) ∧ (columns.map Column.name).Nodup
  | [], _ => by simp [fault?]
  | c :: rest, present => by
    have ih := fault?_eq_none_iff table rest (c.name :: present)
    simp only [fault?]
    split
    · rename_i hblank
      simp [String.isEmpty_iff.1 hblank]
    · rename_i hblank
      split
      · rename_i hmem
        simp [hmem]
      · rename_i hmem
        have hne : c.name ≠ "" := fun he => hblank (String.isEmpty_iff.2 he)
        rw [ih, List.forall_mem_cons, List.map_cons, List.nodup_cons]
        constructor
        · rintro ⟨hrest, hnodup⟩
          refine ⟨⟨⟨hne, hmem⟩, fun d hd => ⟨(hrest d hd).1, fun hp => (hrest d hd).2 (by simp [hp])⟩⟩, ?_, hnodup⟩
          intro hin
          obtain ⟨d, hd, hdc⟩ := List.mem_map.1 hin
          exact (hrest d hd).2 (by simp [hdc])
        · rintro ⟨⟨-, hrest⟩, hnot, hnodup⟩
          refine ⟨fun d hd => ⟨(hrest d hd).1, fun hp => ?_⟩, hnodup⟩
          rcases List.mem_cons.1 hp with hp | hp
          · exact hnot (List.mem_map.2 ⟨d, hd, hp⟩)
          · exact (hrest d hd).2 hp

def indexOf (table : String) (f : Field) : Index := ⟨indexName table f, f.name.shown⟩

theorem mem_sortedIndexes {t : Table} {i : Index} : i ∈ t.sortedIndexes ↔ i ∈ t.indexes := List.mem_mergeSort

theorem pairwise_sortedIndexes (t : Table) : t.sortedIndexes.Pairwise (fun a b => a.name ≤ b.name) := by
  have hsorted : t.sortedIndexes.Pairwise (fun a b => (!decide (b.name < a.name)) = true) :=
    List.pairwise_mergeSort
      (fun a b c hab hbc => by
        simp only [Bool.not_eq_true', decide_eq_false_iff_not, String.not_lt] at *
        exact String.le_trans hab hbc)
      (fun a b => by
        simp only [Bool.or_eq_true, Bool.not_eq_true', decide_eq_false_iff_not, String.not_lt]
        exact String.le_total a.name b.name) t.indexes
  refine hsorted.imp (fun h => ?_)
  rwa [Bool.not_eq_true', decide_eq_false_iff_not, String.not_lt] at h

end Table

namespace Schema

def indexNames (s : Schema) : List String :=
  (s.dataFields.filter Field.indexed).map (Table.indexName s.tableName)

theorem exists_of_table_eq_ok {s : Schema} {t : Table} (h : s.table = .ok t) : ∃ columns,
    s.dataFields.mapM Field.column = .ok columns ∧ t = ⟨s.tableName, Table.identityColumn :: columns,
      (s.dataFields.filter Field.indexed).map (Table.indexOf s.tableName)⟩ := by
  rw [table] at h
  split at h
  · cases h
  · rename_i columns hcolumns
    simp only at h
    split at h
    · cases h
    · exact ⟨columns, hcolumns, (Except.ok.inj h).symm⟩

/-- **An accepted schema has a table**: the identity column, a column for each data field, and the indexes. -/
theorem Accepted.table_eq_ok {s : Schema} (h : s.Accepted) : ∃ columns,
    s.dataFields.mapM Field.column = .ok columns ∧
      s.table = .ok ⟨s.tableName, Table.identityColumn :: columns,
        (s.dataFields.filter Field.indexed).map (Table.indexOf s.tableName)⟩ := by
  obtain ⟨columns, hcolumns⟩ := (Sequence.exists_mapM_eq_ok_iff Field.column s.dataFields).2 (fun f hf =>
    (Field.exists_column_eq_ok_iff f).2 (h.coerced_eq_ok hf))
  refine ⟨columns, hcolumns, ?_⟩
  have hnames := Field.names_of_columns ((Sequence.mapM_eq_ok_iff _ _ _).1 hcolumns)
  have hmem : ∀ c ∈ columns, ∃ f ∈ s.dataFields, f.name.shown = c.name := fun c hc =>
    List.mem_map.1 (hnames ▸ List.mem_map_of_mem (f := Column.name) hc)
  have hfault : Table.fault? s.tableName [] (Table.identityColumn :: columns) = none := by
    rw [Table.fault?_eq_none_iff]
    refine ⟨List.forall_mem_cons.2 ⟨by decide, fun c hc => ⟨?_, List.not_mem_nil⟩⟩, List.nodup_cons.2 ⟨?_, ?_⟩⟩
    · obtain ⟨f, hf, hc⟩ := hmem c hc
      intro hblank
      refine Naming.ne_nil_of_isIdentifier (h.isIdentifier_name hf) ?_
      rw [hc, hblank]
      rfl
    · intro hid
      obtain ⟨c, hc, hcid⟩ := List.mem_map.1 hid
      obtain ⟨f, hf, hfc⟩ := hmem c hc
      exact h.shown_ne_identityName hf (hfc.trans hcid)
    · exact hnames ▸ h.nodup_shown
  simp only [table, hcolumns, hfault]
  rfl

end Schema

namespace Script

theorem createIndex_eq_ok_iff (table : String) (i : Index) :
    (∃ text, createIndex table i = .ok text) ↔ i.name.length ≤ Table.maxIdentifier := by
  unfold createIndex
  split <;> simp <;> omega

theorem createIndex_eq_error_iff (table : String) (i : Index) (e : TableError) :
    createIndex table i = .error e ↔ Table.maxIdentifier < i.name.length ∧ .longIdentifier i.name = e := by
  unfold createIndex
  split <;> simp [*]

theorem exists_statements_eq_ok_iff (t : Table) :
    (∃ l, statements t = .ok l) ↔ ∀ i ∈ t.indexes, i.name.length ≤ Table.maxIdentifier := by
  simp only [statements, Sequence.map_eq_ok_iff]
  constructor
  · rintro ⟨_, l, hl, -⟩ i hi
    exact (createIndex_eq_ok_iff t.name i).1 ((Sequence.exists_mapM_eq_ok_iff _ _).1 ⟨l, hl⟩ i
      (Table.mem_sortedIndexes.2 hi))
  · intro h
    obtain ⟨l, hl⟩ := (Sequence.exists_mapM_eq_ok_iff (createIndex t.name) t.sortedIndexes).2 (fun i hi =>
      (createIndex_eq_ok_iff t.name i).2 (h i (Table.mem_sortedIndexes.1 hi)))
    exact ⟨_, l, hl, rfl⟩

/-- **The refusal names the least index name that is too long.** -/
theorem least_of_statements_eq_error {t : Table} {e : TableError} (h : statements t = .error e) :
    ∃ i ∈ t.indexes, e = .longIdentifier i.name ∧ Table.maxIdentifier < i.name.length ∧
      ∀ j ∈ t.indexes, Table.maxIdentifier < j.name.length → i.name ≤ j.name := by
  obtain ⟨pre, i, post, hl, hpre, hi⟩ := (Sequence.mapM_eq_error_iff _ _ _).1 (Sequence.map_eq_error_iff.1 h)
  obtain ⟨hlong, rfl⟩ := (createIndex_eq_error_iff _ _ _).1 hi
  have hmem : ∀ j, j ∈ t.indexes ↔ j ∈ pre ++ i :: post := fun j => by rw [← hl, Table.mem_sortedIndexes]
  refine ⟨i, (hmem i).2 (by simp), rfl, hlong, fun j hj hjlong => ?_⟩
  rcases List.mem_append.1 ((hmem j).1 hj) with hj | hj
  · have := (createIndex_eq_ok_iff t.name j).1 (hpre j hj)
    omega
  · rcases List.mem_cons.1 hj with rfl | hj
    · exact String.le_refl _
    · have hsorted := t.pairwise_sortedIndexes
      rw [hl] at hsorted
      exact List.rel_of_pairwise_cons (List.pairwise_append.1 hsorted).2.1 hj

end Script
end Scaffold
