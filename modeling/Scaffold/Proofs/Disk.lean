import Scaffold.Disk
import Scaffold.Proofs.Path
import Scaffold.Proofs.Sequence
/-!
# Proofs.Disk — what writing files does to a disk

Where a path leads to does not depend on the disk (`Route.place`); whether it can be walked does.  Making a directory
changes no file, and writing one changes that file alone, so that files written to places of their own hold what was
written to them, and all other files what they held before (`content?_writeAll`).
-/
namespace Scaffold

namespace Place

def follow (p : Place) (part : List Char) : Place := if part = ['.', '.'] then p.up else p.child part

/-- **Where parts lead to**, one after the other. -/
def below (p : Place) (parts : List (List Char)) : Place := parts.foldl follow p

theorem below_append (p : Place) (a b : List (List Char)) : p.below (a ++ b) = (p.below a).below b :=
  List.foldl_append

/-- **Parts that do not lead up lead down**, each to a place below the one before. -/
theorem below_of_no_up {parts : List (List Char)} (h : ∀ x ∈ parts, x ≠ ['.', '.']) (p : Place) :
    p.below parts = ⟨p.base, parts.reverse ++ p.names⟩ := by
  induction parts generalizing p with
  | nil => rfl
  | cons x parts ih =>
    obtain ⟨hx, hparts⟩ := List.forall_mem_cons.1 h
    have hchild : p.follow x = p.child x := if_neg hx
    rw [below, List.foldl_cons, hchild]
    refine (ih hparts (p.child x)).trans ?_
    rw [List.reverse_cons, List.append_assoc]
    rfl

theorem below_inj {p : Place} {a b : List (List Char)} (ha : ∀ x ∈ a, x ≠ ['.', '.']) (hb : ∀ x ∈ b, x ≠ ['.', '.'])
    (h : p.below a = p.below b) : a = b := by
  rw [below_of_no_up ha, below_of_no_up hb] at h
  exact List.reverse_inj.1 (List.append_cancel_right (Place.mk.inj h).2)

/-- **The place lies inside another**: names lead down to it, and each of them is one part of a path. -/
def Within (p out : Place) : Prop :=
  ∃ names, names ≠ [] ∧ (∀ x ∈ names, Path.IsPart x ∧ x ≠ ['.', '.']) ∧ p = ⟨out.base, names ++ out.names⟩

theorem within_below {parts : List (List Char)} (hparts : parts ≠ [])
    (h : ∀ x ∈ parts, Path.IsPart x ∧ x ≠ ['.', '.']) (out : Place) : (out.below parts).Within out :=
  ⟨parts.reverse, by simpa using hparts, fun x hx => h x (List.mem_reverse.1 hx),
    below_of_no_up (fun x hx => (h x hx).2) out⟩

end Place

namespace Route

def place (r : Route) : Place := r.start.below r.parts.reverse

theorem place_ofPath (path : String) : (ofPath path).place =
    (start ⟨Path.root path.toList, []⟩).below (Path.parts path.toList) := by
  rw [place, ofPath, List.reverse_reverse]
  rfl

theorem place_under (directory file : String) : (ofPath (Path.under directory file)).place =
    (ofPath directory).place.below (Path.parts file.toList) := by
  rw [place_ofPath, place_ofPath, Path.root_under, Path.parts_under, Place.below_append]

end Route

namespace Disk

variable {d d' : Disk}

/-! ## Walking -/

theorem eq_follow_of_step {p q : Place} {part : List Char} (h : d.step p part = .ok q) : q = p.follow part := by
  unfold step at h
  unfold Place.follow
  split at h
  · cases h
  · split at h
    · rename_i hup
      rw [if_pos hup]
      exact (Except.ok.inj h).symm
    · rename_i hup
      split at h
      · cases h
      · rw [if_neg hup]
        exact (Except.ok.inj h).symm

theorem eq_below_of_walk : ∀ {parts : List (List Char)} {p q : Place}, d.walk p parts = .ok q → q = p.below parts
  | [], p, q, h => (Except.ok.inj h).symm
  | part :: parts, p, q, h => by
    obtain ⟨next, hstep, h⟩ := Sequence.bind_eq_ok_iff.1 h
    obtain rfl := eq_follow_of_step hstep
    dsimp only at h
    split at h
    · cases h
    · exact (eq_below_of_walk h : q = (p.follow part).below parts)

theorem eq_place_of_target {r : Route} {p : Place} (h : d.target r = .ok p) : p = r.place := by
  obtain ⟨root, parts⟩ := r
  unfold target at h
  cases parts with
  | nil => exact (Except.ok.inj h).symm
  | cons part parents =>
    obtain ⟨q, hwalk, hstep⟩ := Sequence.bind_eq_ok_iff.1 h
    obtain rfl := eq_below_of_walk hwalk
    rw [eq_follow_of_step hstep, Route.place, List.reverse_cons, Place.below_append]
    rfl

/-! ## Files -/

def content? (d : Disk) (p : Place) : Option String :=
  match d.node? p with
  | some (.file content) => some content
  | _ => none

theorem node?_put {p : Place} (hp : p.names ≠ []) (n : Node) (q : Place) :
    (d.put p n).node? q = if p = q then some n else d.node? q := by
  rw [node?, node?]
  by_cases hq : q.names.isEmpty = true
  · have hne : p ≠ q := fun heq => hp (by rw [heq, List.isEmpty_iff.1 hq])
    rw [if_pos hq, if_neg hne, if_pos hq]
  · rw [if_neg hq, if_neg hq]
    exact Entries.get?_set q p n d.made

theorem names_ne_nil {p : Place} (h : d.node? p ≠ some .directory) : p.names ≠ [] := fun hnil =>
  h (by simp [node?, hnil])

theorem content?_put_directory {p : Place} (h : d.node? p = none) (q : Place) :
    (d.put p .directory).content? q = d.content? q := by
  have hp := names_ne_nil (d := d) (p := p) (by simp [h])
  rw [content?, content?, node?_put hp]
  by_cases heq : p = q
  · rw [if_pos heq, ← heq, h]
  · rw [if_neg heq]

theorem content?_put_file {p : Place} (h : d.node? p ≠ some .directory) (content : String) (q : Place) :
    (d.put p (.file content)).content? q = if p = q then some content else d.content? q := by
  rw [content?, content?, node?_put (names_ne_nil h)]
  by_cases heq : p = q
  · rw [if_pos heq, if_pos heq]
  · rw [if_neg heq, if_neg heq]

/-! ## Directories -/

theorem content?_makeDirectory {r : Route} (h : d.makeDirectory r = .ok d') (q : Place) :
    d'.content? q = d.content? q := by
  obtain ⟨-, -, h⟩ := Sequence.bind_eq_ok_iff.1 h
  obtain ⟨p, -, h⟩ := Sequence.bind_eq_ok_iff.1 h
  split at h
  · cases h
  · rename_i hnone
    rw [← Except.ok.inj h]
    exact content?_put_directory (by simpa using hnone) q

theorem content?_ensureDirectory {r : Route} (h : d.ensureDirectory r = .ok d') (q : Place) :
    d'.content? q = d.content? q := by
  unfold ensureDirectory at h
  split at h
  · split at h
    · rw [← Except.ok.inj h]
    · cases h
  · rename_i made hmade
    obtain rfl := Except.ok.inj h
    exact content?_makeDirectory hmade q

theorem content?_ensurePath {root : List Char} : ∀ {parts : List (List Char)} {d d' : Disk},
    d.ensurePath root parts = .ok d' → ∀ q, d'.content? q = d.content? q
  | [], _, _, h, q => content?_ensureDirectory h q
  | part :: parents, d, d', h, q => by
    unfold ensurePath at h
    split at h
    · obtain ⟨between, hparents, h⟩ := Sequence.bind_eq_ok_iff.1 h
      exact (content?_ensureDirectory h q).trans (content?_ensurePath hparents q)
    · exact content?_ensureDirectory h q

/-! ## Writing -/

theorem content?_write {path content : String} (h : d.write path content = .ok d') (q : Place) :
    d'.content? q = if (Route.ofPath path).place = q then some content else d.content? q := by
  obtain ⟨ready, hready, h⟩ := Sequence.bind_eq_ok_iff.1 h
  obtain ⟨-, -, h⟩ := Sequence.bind_eq_ok_iff.1 h
  obtain ⟨p, hp, h⟩ := Sequence.bind_eq_ok_iff.1 h
  obtain rfl := eq_place_of_target (Sequence.mapError_eq_ok_iff.1 hp)
  split at h
  · cases h
  · rename_i hfile
    rw [← Except.ok.inj h, content?_put_file hfile, content?_ensurePath hready]

/-- **Files written to places of their own** hold what was written, and all other files what they held before. -/
theorem content?_writeAll : ∀ {files : List (String × String)} {d d' : Disk}, d.writeAll files = (d', .ok ()) →
    (files.map (fun f => (Route.ofPath f.1).place)).Nodup →
      (∀ f ∈ files, d'.content? (Route.ofPath f.1).place = some f.2) ∧
      ∀ q ∉ files.map (fun f => (Route.ofPath f.1).place), d'.content? q = d.content? q
  | [], d, d', h, _ => by
    obtain ⟨rfl, -⟩ := Prod.mk.inj h
    exact ⟨List.forall_mem_nil _, fun _ _ => rfl⟩
  | (path, content) :: rest, d, d', h, hnodup => by
    unfold writeAll at h
    split at h
    · rename_i next hwrite
      obtain ⟨hfirst, hnodup⟩ := List.nodup_cons.1 hnodup
      obtain ⟨hwritten, hothers⟩ := content?_writeAll h hnodup
      refine ⟨List.forall_mem_cons.2 ⟨?_, hwritten⟩, fun q hq => ?_⟩
      -- no later file has the place of the first, so its text stays
      · rw [hothers _ hfirst, content?_write hwrite, if_pos rfl]
      · obtain ⟨hne, hq⟩ := not_or.1 (fun hor => hq (List.mem_cons.2 hor))
        rw [hothers q hq, content?_write hwrite, if_neg (Ne.symm hne)]
    · cases (Prod.mk.inj h).2

end Disk
end Scaffold
