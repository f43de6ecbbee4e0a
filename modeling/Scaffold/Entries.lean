/-!
# Entries — keyed values in order

A list of pairs in which a key stands at most once.  Setting a key that is there replaces its value in place, setting
a new one adds it at the end.
-/
namespace Scaffold

/-- **Values under keys**, in the order in which the keys came. -/
abbrev Entries (κ α : Type) := List (κ × α)

namespace Entries

variable {κ α : Type} [DecidableEq κ]

def get? (key : κ) : Entries κ α → Option α
  | [] => none
  | (k, v) :: rest => if k = key then some v else get? key rest

/-- **The entries with `value` under `key`**, in the place of the old value or at the end. -/
def set (key : κ) (value : α) : Entries κ α → Entries κ α
  | [] => [(key, value)]
  | (k, v) :: rest => if k = key then (k, value) :: rest else (k, v) :: set key value rest

def erase (key : κ) (l : Entries κ α) : Entries κ α := l.filter (fun e => e.1 ≠ key)

/-- **The entries of `l` overridden by those of `m`.** -/
def merge (l m : Entries κ α) : Entries κ α := m.foldl (fun acc e => set e.1 e.2 acc) l

/-- Entries from pairs, the last of each key winning. -/
def ofPairs (pairs : List (κ × α)) : Entries κ α := merge [] pairs

theorem get?_eq_none_iff (key : κ) : ∀ (l : Entries κ α), get? key l = none ↔ key ∉ l.map Prod.fst
  | [] => by simp [get?]
  | (k, v) :: rest => by
    by_cases h : k = key
    · simp [get?, h]
    · simp [get?, h, get?_eq_none_iff key rest, Ne.symm h]

theorem get?_set (k key : κ) (value : α) :
    ∀ (l : Entries κ α), get? k (set key value l) = if key = k then some value else get? k l
  | [] => by simp [set, get?]
  | (k', v) :: rest => by
    by_cases h : k' = key
    · subst h
      by_cases hk : k' = k <;> simp [set, get?, hk]
    · by_cases hk : k' = k
      · subst hk
        simp [set, get?, h, Ne.symm h]
      · simp [set, get?, h, hk, get?_set k key value rest]

theorem get?_erase (k key : κ) :
    ∀ (l : Entries κ α), get? k (erase key l) = if key = k then none else get? k l
  | [] => by simp [erase, get?]
  | (k', v) :: rest => by
    have ih := get?_erase k key rest
    by_cases h : k' = key
    · subst h
      have he : erase k' ((k', v) :: rest) = erase k' rest := by simp [erase]
      by_cases hk : k' = k <;> simp_all [get?]
    · have he : erase key ((k', v) :: rest) = (k', v) :: erase key rest := by simp [erase, h]
      by_cases hk : k' = k
      · subst hk
        simp [he, get?, Ne.symm h]
      · simp [he, get?, hk, ih]

/-- **Setting a key keeps the keys and their order**; a new one comes last. -/
theorem map_fst_set (key : κ) (value : α) : ∀ (l : Entries κ α), (set key value l).map Prod.fst =
    if key ∈ l.map Prod.fst then l.map Prod.fst else l.map Prod.fst ++ [key]
  | [] => by simp [set]
  | (k, v) :: rest => by
    by_cases h : k = key
    · simp [set, h]
    · by_cases hm : key ∈ rest.map Prod.fst <;>
        simp_all [set, map_fst_set key value rest, Ne.symm h]

theorem nodup_set (key : κ) (value : α) (l : Entries κ α) (h : (l.map Prod.fst).Nodup) :
    ((set key value l).map Prod.fst).Nodup := by
  rw [map_fst_set]
  split
  · exact h
  · rename_i hm
    exact List.nodup_append.2 ⟨h, by simp, fun a ha b hb => by
      rw [List.mem_singleton.1 hb]
      exact fun e => hm (e ▸ ha)⟩

/-- **Where no key stands twice, a value is found under a key exactly if the entry is there.** -/
theorem get?_eq_some_iff (key : κ) (value : α) : ∀ (l : Entries κ α), (l.map Prod.fst).Nodup →
    (get? key l = some value ↔ (key, value) ∈ l)
  | [], _ => by simp [get?]
  | (k, v) :: rest, h => by
    obtain ⟨hk, h⟩ := List.nodup_cons.1 h
    by_cases hkey : k = key
    · subst hkey
      have hnot : (k, value) ∉ rest := fun hm => hk (List.mem_map.2 ⟨_, hm, rfl⟩)
      simp [get?, hnot, eq_comm]
    · simp [get?, hkey, get?_eq_some_iff key value rest h, Ne.symm hkey]

end Entries
end Scaffold
