import Scaffold.Json.Document
import Scaffold.Proofs.Sequence
/-!
# Proofs.Json.Keys — no key stands twice in what was read

A repeated key replaces the value that was read before, so in a value that was read every object has each of its keys
once (`keyed_of_ofBytes`).  Where that is so, entries that override others are found under their keys (`get?_merge`).
-/
namespace Scaffold

namespace Entries

variable {κ α : Type} [DecidableEq κ]

theorem forall_mem_set {P : α → Prop} {key : κ} {value : α} (hvalue : P value) : ∀ {l : Entries κ α},
    (∀ e ∈ l, P e.2) → ∀ e ∈ set key value l, P e.2
  | [], _ => List.forall_mem_singleton.2 hvalue
  | (k, v) :: rest, h => by
    obtain ⟨hv, hrest⟩ := List.forall_mem_cons.1 h
    unfold set
    split
    · exact List.forall_mem_cons.2 ⟨hvalue, hrest⟩
    · exact List.forall_mem_cons.2 ⟨hv, forall_mem_set hvalue hrest⟩

theorem get?_merge (key : κ) : ∀ {m : Entries κ α} (l : Entries κ α), (m.map Prod.fst).Nodup →
    get? key (merge l m) = (get? key m).or (get? key l)
  | [], l, _ => rfl
  | (k, v) :: rest, l, h => by
    obtain ⟨hk, hrest⟩ := List.nodup_cons.1 h
    have hstep : get? key (merge l ((k, v) :: rest)) = (get? key rest).or (get? key (set k v l)) :=
      get?_merge key (set k v l) hrest
    rw [hstep, get?_set, get?]
    split
    · rename_i heq
      rw [(get?_eq_none_iff key rest).2 (heq ▸ hk)]
      rfl
    · rfl

end Entries

namespace Json

/-- **Every object in the value has each of its keys once.** -/
inductive Keyed : Json → Prop where
  | null : Keyed .null
  | bool (b : Bool) : Keyed (.bool b)
  | int (n : Int) : Keyed (.int n)
  | float (x : Binary64) : Keyed (.float x)
  | str (w : Wording) : Keyed (.str w)
  | arr {items : List Json} (h : ∀ v ∈ items, Keyed v) : Keyed (.arr items)
  | obj {members : Members} (hkeys : (members.map Prod.fst).Nodup) (h : ∀ e ∈ members, Keyed e.2) : Keyed (.obj members)

theorem Keyed.set {m : Members} (h : Keyed (.obj m)) (key : Wording) {v : Json} (hv : v.Keyed) :
    Keyed (.obj (m.set key v)) := by
  cases h with
  | obj hkeys h => exact .obj (Entries.nodup_set key v m hkeys) (Entries.forall_mem_set hv h)

theorem Keyed.nodup {m : Members} (h : Keyed (.obj m)) : (m.map Prod.fst).Nodup := by
  cases h with
  | obj hkeys _ => exact hkeys

theorem Keyed.of_get? {m : Members} (h : Keyed (.obj m)) {key : Wording} {v : Json} (hv : m.get? key = some v) :
    v.Keyed := by
  cases h with
  | obj hkeys h => exact h _ ((Entries.get?_eq_some_iff key v m hkeys).1 hv)

theorem Keyed.of_mem {items : List Json} (h : Keyed (.arr items)) {v : Json} (hv : v ∈ items) : v.Keyed := by
  cases h with
  | arr h => exact h v hv

theorem keyed_of_number {c : Cursor} {r : Json × Cursor} (h : number c = .ok r) : r.1.Keyed := by
  unfold number at h
  split at h
  extract_lets at h
  split at h
  · cases h
  · extract_lets at h
    split at h
    · split at h
      · cases h
      · obtain rfl := Except.ok.inj h
        exact .int _
    · obtain rfl := Except.ok.inj h
      exact .float _

theorem keyed_of_constant {c : Cursor} {r : Json × Cursor} (h : constant? c = some r) : r.1.Keyed := by
  obtain ⟨e, he, rfl⟩ := Option.map_eq_some_iff.1 h
  have hall : ∀ e ∈ constants, e.2.Keyed := by
    simp only [constants, List.forall_mem_cons, List.not_mem_nil, false_implies, implies_true, and_true]
    exact ⟨.null, .bool _, .bool _, .float _, .float _, .float _⟩
  exact hall e (List.mem_of_find?_eq_some he)

-- the readers call each other with less fuel; those of elements and members carry what was read before
mutual

theorem keyed_of_value : ∀ {room fuel : Nat} {c : Cursor} {r : Json × Cursor}, value room fuel c = .ok r → r.1.Keyed
  | _, 0, _, _, h => by
    unfold value at h
    cases h
  | room, fuel + 1, c, r, h => by
    unfold value at h
    split at h
    · cases h
    · obtain ⟨w, -, rfl⟩ := Sequence.map_eq_ok_iff.1 h
      exact .str _
    · split at h
      · cases h
      · dsimp only at h
        split at h
        · obtain rfl := Except.ok.inj h
          exact .arr (List.forall_mem_nil _)
        · obtain ⟨l, hl, rfl⟩ := Sequence.map_eq_ok_iff.1 h
          exact .arr (keyed_of_elements hl (List.forall_mem_nil _))
    · split at h
      · cases h
      · dsimp only at h
        split at h
        · obtain rfl := Except.ok.inj h
          exact .obj List.nodup_nil (List.forall_mem_nil _)
        · obtain ⟨m, hm, rfl⟩ := Sequence.map_eq_ok_iff.1 h
          exact keyed_of_members hm (.obj List.nodup_nil (List.forall_mem_nil _))
    · split at h
      · rename_i hconstant
        obtain rfl := Except.ok.inj h
        exact keyed_of_constant hconstant
      · exact keyed_of_number h

theorem keyed_of_elements : ∀ {room fuel : Nat} {c : Cursor} {read : List Json} {r : List Json × Cursor},
    elements room fuel c read = .ok r → (∀ v ∈ read, v.Keyed) → ∀ v ∈ r.1, v.Keyed
  | _, 0, _, _, _, h, _ => by
    unfold elements at h
    cases h
  | room, fuel + 1, c, read, r, h, hread => by
    unfold elements at h
    obtain ⟨⟨v, after⟩, hv, h⟩ := Sequence.bind_eq_ok_iff.1 h
    have hall := List.forall_mem_cons.2 ⟨keyed_of_value hv, hread⟩
    dsimp only at h
    split at h
    · obtain rfl := Except.ok.inj h
      exact fun v hv => hall v (List.mem_reverse.1 hv)
    · exact keyed_of_elements h hall
    · cases h

theorem keyed_of_members : ∀ {room fuel : Nat} {c : Cursor} {read : Members} {r : Members × Cursor},
    members room fuel c read = .ok r → Keyed (.obj read) → Keyed (.obj r.1)
  | _, 0, _, _, _, h, _ => by
    unfold members at h
    cases h
  | room, fuel + 1, c, read, r, h, hread => by
    unfold members at h
    split at h
    · obtain ⟨⟨key, after⟩, -, h⟩ := Sequence.bind_eq_ok_iff.1 h
      dsimp only at h
      split at h
      · obtain ⟨⟨v, rest⟩, hv, h⟩ := Sequence.bind_eq_ok_iff.1 h
        have hset := hread.set key (keyed_of_value hv)
        dsimp only at h
        split at h
        · obtain rfl := Except.ok.inj h
          exact hset
        · exact keyed_of_members h hset
        · cases h
      · cases h
    · cases h

end

/-- **In a value that was read every object has each of its keys once.** -/
theorem keyed_of_ofBytes {bytes : List Nat} {v : Json} (h : ofBytes bytes = .ok v) : v.Keyed := by
  unfold ofBytes at h
  split at h
  · cases h
  · obtain ⟨r, hr, hrest⟩ := Sequence.bind_eq_ok_iff.1 (Sequence.mapError_eq_ok_iff.1 h)
    obtain ⟨w, after⟩ := r
    dsimp only at hrest
    split at hrest
    · obtain rfl := Except.ok.inj hrest
      exact keyed_of_value hr
    · cases hrest

end Json
end Scaffold
