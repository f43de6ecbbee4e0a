import Scaffold.Proofs.Schema.Acceptance
/-!
# Proofs.Schema.Clash — which names clash

Names that differ in case alone clash.  The checks group the names by their lower case, and the groups are in the order
in which each of them began (`pairwise_nameGroups`), so every clash is reported once, at the place of its first name,
with that name as it was spelled and with the number of fields (`clashes_reported_once`).
-/
namespace Scaffold
namespace Schema

theorem idxOf_lt_idxOf_append {l : List Wording} {a b : Wording} (h : l.idxOf a < l.idxOf b) (r : List Wording) :
    (l ++ r).idxOf a < (l ++ r).idxOf b := by
  have ha : a ∈ l := List.idxOf_lt_length_iff.1 (Nat.lt_of_lt_of_le h List.idxOf_le_length)
  rw [List.idxOf_append_of_mem ha]
  by_cases hb : b ∈ l
  · rwa [List.idxOf_append_of_mem hb]
  · rw [List.idxOf_append_of_notMem hb]
    exact Nat.lt_add_right _ (List.idxOf_lt_length_of_mem ha)

theorem mem_lower_of_mem_nameGroups {key : Wording} {names : List Wording} (h : key ∈ (nameGroups names).map Prod.fst) :
    key ∈ names.map Wording.lower := by
  obtain ⟨⟨_, group⟩, hgroup, rfl⟩ := List.mem_map.1 h
  exact ((mem_nameGroups _ group names).1 hgroup).1

/-- **The groups are in the order in which they began**: the lower case of an earlier one is found first. -/
theorem pairwise_nameGroups (names : List Wording) : ((nameGroups names).map Prod.fst).Pairwise
    (fun a b => (names.map Wording.lower).idxOf a < (names.map Wording.lower).idxOf b) := by
  induction names using List.reverseRecOn with
  | nil => exact .nil
  | append_singleton names name ih =>
    have hkept : ((nameGroups names).map Prod.fst).Pairwise (fun a b =>
        ((names ++ [name]).map Wording.lower).idxOf a < ((names ++ [name]).map Wording.lower).idxOf b) := by
      rw [List.map_append]
      exact ih.imp (fun h => idxOf_lt_idxOf_append h _)
    rw [nameGroups_concat, Entries.map_fst_set]
    split
    · exact hkept
    · -- a group that begins with the last name comes after all others
      rename_i hnew
      refine List.pairwise_append.2 ⟨hkept, List.pairwise_singleton _ _, fun a ha b hb => ?_⟩
      obtain rfl := List.mem_singleton.1 hb
      have hmem := mem_lower_of_mem_nameGroups ha
      have hnot : name.lower ∉ names.map Wording.lower := fun hmem =>
        hnew (List.mem_map.2 ⟨_, (mem_nameGroups _ _ names).2 ⟨hmem, rfl⟩, rfl⟩)
      rw [List.map_append, List.idxOf_append_of_mem hmem, List.idxOf_append_of_notMem hnot]
      exact Nat.lt_add_right _ (List.idxOf_lt_length_of_mem hmem)

/-- **The finding reports a clash**: it names the first of the names that are the same in lower case, as it was spelled,
and says how many there are. -/
structure ReportsClash (names : List Wording) (key : Wording) (e : Finding) : Prop where
  code : e.code = "DUPLICATE_FIELD_NAME"
  named : ∃ before name after, names = before ++ name :: after ∧ name.lower = key ∧ (∀ n ∈ before, n.lower ≠ key) ∧
    e.field? = some name ∧
    e.message = "Field name '" ++ name.shown ++ "' is used by " ++ toString ((names.map Wording.lower).count key) ++
      " fields (names are case-insensitive)"

theorem reportsClash_of_filter {names rest : List Wording} {key first : Wording}
    (h : names.filter (fun n => n.lower = key) = first :: rest) :
    ReportsClash names key (.duplicateFieldName first (first :: rest).length) := by
  obtain ⟨before, after, hnames, hbefore, hfirst, -⟩ := List.filter_eq_cons_iff.1 h
  refine ⟨rfl, before, first, after, hnames, by simpa using hfirst, fun n hn => by simpa using hbefore n hn, rfl, ?_⟩
  rw [← length_filter_lower, h]
  rfl

theorem forall₂_reportsClash {names : List Wording} : ∀ {groups : Entries Wording (List Wording)},
    (∀ g ∈ groups, g.2 = names.filter (fun n => n.lower = g.1)) →
    List.Forall₂ (ReportsClash names) ((groups.filter (fun g => 2 ≤ g.2.length)).map Prod.fst)
      (groups.filterMap (fun group =>
        match group.2 with
        | first :: _ :: _ => some (.duplicateFieldName first group.2.length)
        | _ => none))
  | [], _ => .nil
  | (key, group) :: groups, h => by
    obtain ⟨hgroup, hgroups⟩ := List.forall_mem_cons.1 h
    have hrest := forall₂_reportsClash hgroups
    rcases group with _ | ⟨first, _ | ⟨second, more⟩⟩
    · exact hrest
    · exact hrest
    · exact .cons (reportsClash_of_filter hgroup.symm) hrest

/-- **Every clash is reported once.**  There is one finding for each lower case that two or more fields have and none
for any other, in the order in which these are first met; each names the first field of the clash, as it is spelled,
with the number of fields.  So nothing is reported exactly if no two names are the same in lower case. -/
theorem clashes_reported_once (s : Schema) : ∃ clashing : List Wording,
    (∀ key, key ∈ clashing ↔ 2 ≤ (s.fields.map (fun f => f.name.lower)).count key) ∧
    clashing.Pairwise (fun a b =>
      (s.fields.map (fun f => f.name.lower)).idxOf a < (s.fields.map (fun f => f.name.lower)).idxOf b) ∧
    List.Forall₂ (ReportsClash (s.fields.map Field.name)) clashing s.duplicateNameErrors ∧
    (s.duplicateNameErrors = [] ↔ (s.fields.map (fun f => f.name.lower)).Nodup) := by
  refine ⟨((nameGroups (s.fields.map Field.name)).filter (fun g => 2 ≤ g.2.length)).map Prod.fst, fun key => ?_, ?_, ?_,
    duplicateNameErrors_eq_nil_iff s⟩
  · rw [map_lower_name, ← length_filter_lower]
    constructor
    · intro hkey
      obtain ⟨⟨_, group⟩, hgroup, rfl⟩ := List.mem_map.1 hkey
      obtain ⟨hmem, hlength⟩ := List.mem_filter.1 hgroup
      rw [← ((mem_nameGroups _ group _).1 hmem).2]
      simpa using hlength
    · intro hcount
      have hmem : key ∈ (s.fields.map Field.name).map Wording.lower := by
        rw [length_filter_lower] at hcount
        exact List.count_pos_iff.1 (by omega)
      exact List.mem_map.2 ⟨(key, _), List.mem_filter.2 ⟨(mem_nameGroups key _ _).2 ⟨hmem, rfl⟩, by simpa using hcount⟩,
        rfl⟩
  · rw [map_lower_name]
    exact (pairwise_nameGroups _).sublist (List.filter_sublist.map _)
  · exact forall₂_reportsClash (fun g hg => ((mem_nameGroups g.1 g.2 _).1 hg).2)

/-- Two clashes and a name that is alone. -/
example : ({ entityName := "Book",
             fields := [{ id := "1", name := "Isbn" }, { id := "2", name := "title" }, { id := "3", name := "ISBN" },
               { id := "4", name := "stock" }, { id := "5", name := "TITLE" }, { id := "6", name := "isbn" }] } :
      Schema).duplicateNameErrors = [.duplicateFieldName "Isbn" 3, .duplicateFieldName "title" 2] := by
  decide

end Schema
end Scaffold
