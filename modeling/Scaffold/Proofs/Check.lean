import Mathlib.Data.List.Forall2
import Scaffold.Check.Basic
/-!
# Proofs.Check — what it takes for a check to pass

A check passes exactly if each of its parts does, and the value it gives is put together from theirs.  A part that must
be there is the value under its key, checked.
-/
namespace Scaffold

namespace Json.Members

theorem get?_set (m : Json.Members) (k key : Wording) (v : Json) :
    (m.set key v).get? k = if key = k then some v else m.get? k := Entries.get?_set k key v m

theorem get?_set_self (m : Json.Members) (key : Wording) (v : Json) : (m.set key v).get? key = some v := by
  rw [get?_set, if_pos rfl]

theorem get?_erase (m : Json.Members) (k key : Wording) :
    (m.erase key).get? k = if key = k then none else m.get? k := Entries.get?_erase k key m

end Json.Members

namespace Checked

variable {α β : Type}

theorem map_eq_ok_iff {f : α → β} {x : Checked α} {b : β} : f <$> x = .ok b ↔ ∃ a, x = .ok a ∧ f a = b := by
  cases x <;> simp [Functor.map, map]

theorem seq_eq_ok_iff {f : Checked (α → β)} {x : Checked α} {b : β} :
    f <*> x = .ok b ↔ ∃ g a, f = .ok g ∧ x = .ok a ∧ g a = b := by
  cases f <;> cases x <;> simp [Seq.seq, ap]

theorem toExcept_eq_ok_iff {x : Checked α} {a : α} : x.toExcept = .ok a ↔ x = .ok a := by
  cases x <;> simp [toExcept]

/-- **A list passes if each of its elements does**, each at its place. -/
theorem forall₂_of_list {check : List Step → Json → Checked α} {place : List Step} :
    ∀ {items : List Json} {n : Nat} {r : List α}, list check place n items = .ok r →
      List.Forall₂ (fun v a => ∃ place, check place v = .ok a) items r
  | [], _, r, h => by
    cases h
    exact .nil
  | v :: rest, n, r, h => by
    simp only [list, seq_eq_ok_iff, map_eq_ok_iff] at h
    obtain ⟨_, l, ⟨a, ha, rfl⟩, hl, rfl⟩ := h
    exact .cons ⟨_, ha⟩ (forall₂_of_list hl)

end Checked

namespace Check

variable {α : Type}

theorem required_of_get? {m : Json.Members} {place : List Step} {key : String} {v : Json}
    {check : List Step → Json → Checked α} (h : m.get? key = some v) :
    required m place [key] check = check (place ++ [.key key]) v := by
  simp [required, lookup?, h]

theorem optional_of_get? {m : Json.Members} {place : List Step} {key : String} {v : Json} {absent : α}
    {check : List Step → Json → Checked α} (h : m.get? key = some v) :
    optional m place [key] absent check = check (place ++ [.key key]) v := by
  simp [optional, lookup?, h]

end Check
end Scaffold
