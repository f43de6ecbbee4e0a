import Scaffold.Proofs.CommandLine.Decision
import Scaffold.Proofs.Disk
/-!
# Proofs.CommandLine.Files — the files that a run leaves

The artifacts of a schema that passes have four places below the output directory.  The name of the entity is part of
one of them, and it cannot lead elsewhere: in Pascal case an identifier has no slash, a line feed at its end aside it
has letters and digits alone.  So a run that ends well leaves exactly these four files, and every other run, one that a
fault ends too, leaves the disk as it was (`run_all_or_nothing`).
-/
namespace Scaffold

namespace Schema

/-- **Where the artifacts of a schema lie**, below the place of a directory. -/
def places (s : Schema) (out : Place) : List Place := s.paths.map (fun p => out.below (Path.parts p.2.toList))

theorem places_filesUnder (s : Schema) (directory : String) (b : Bundle) :
    (s.filesUnder directory b).map (fun f => (Route.ofPath f.1).place) = s.places (Route.ofPath directory).place := by
  simp only [filesUnder, places, List.map_map, Function.comp_def, Route.place_under]

def partsOfPaths (s : Schema) : List (List (List Char)) :=
  [["backend", "sql", "schema.sql"], ["backend", "models.py"], ["backend", "app.py"],
   ["frontend", "src", "components", s.className ++ "List.jsx"]].map (fun ps => ps.map String.toList)

namespace Accepted

variable {s : Schema}

theorem slash_not_mem_className (h : s.Accepted) : '/' ∉ s.className.toList := by
  intro hslash
  rw [className, String.toList_ofList] at hslash
  rcases Naming.part_or_newline_of_mem_pascal h.entity '/' hslash with hpart | hfeed
  · cases hpart
  · cases hfeed

theorem isPart_component (h : s.Accepted) : Path.IsPart (s.className ++ "List.jsx").toList := by
  rw [String.toList_append]
  refine ⟨by simp, fun hslash => ?_, fun hpoint => ?_⟩
  · rcases List.mem_append.1 hslash with hname | hsuffix
    · exact h.slash_not_mem_className hname
    · exact absurd hsuffix (by decide)
  · exact absurd (congrArg List.length hpoint) (by simp)

theorem parts_paths (h : s.Accepted) : s.paths.map (fun p => Path.parts p.2.toList) = s.partsOfPaths := by
  have hlast : Path.parts ("frontend/src/components/" ++ s.className ++ "List.jsx").toList =
      ["frontend".toList, "src".toList, "components".toList, (s.className ++ "List.jsx").toList] := by
    have hsplit : ("frontend/src/components/" ++ s.className ++ "List.jsx").toList =
        "frontend".toList ++ '/' :: ("src".toList ++ '/' :: ("components".toList ++ '/' ::
          (s.className ++ "List.jsx").toList)) := by
      simp [String.toList_append]
    rw [hsplit, Path.parts_append_slash ⟨by decide, by decide, by decide⟩,
      Path.parts_append_slash ⟨by decide, by decide, by decide⟩,
      Path.parts_append_slash ⟨by decide, by decide, by decide⟩, Path.parts_of_isPart h.isPart_component]
  simp only [paths, partsOfPaths, List.map_cons, List.map_nil, hlast]
  rfl

theorem places_eq (h : s.Accepted) (out : Place) : s.places out = s.partsOfPaths.map out.below := by
  rw [← h.parts_paths, List.map_map]
  rfl

theorem isPart_of_mem (h : s.Accepted) {parts : List (List Char)} (hparts : parts ∈ s.partsOfPaths) :
    ∀ x ∈ parts, Path.IsPart x := by
  rw [← h.parts_paths] at hparts
  obtain ⟨p, -, rfl⟩ := List.mem_map.1 hparts
  exact fun x => Path.isPart_of_mem_parts

end Accepted

/-! ## Where the artifacts lie -/

theorem ne_up_of_mem (s : Schema) : ∀ parts ∈ s.partsOfPaths, parts ≠ [] ∧ ∀ x ∈ parts, x ≠ ['.', '.'] := by
  have hcomponent : (s.className ++ "List.jsx").toList ≠ ['.', '.'] := by
    rw [String.toList_append]
    exact fun hup => absurd (congrArg List.length hup) (by simp)
  simp only [partsOfPaths, List.map_cons, List.map_nil, List.forall_mem_cons]
  refine ⟨by decide, by decide, by decide, ⟨List.cons_ne_nil _ _, by decide, by decide, by decide, hcomponent, ?_⟩, ?_⟩
  · exact List.forall_mem_nil _
  · exact List.forall_mem_nil _

theorem nodup_partsOfPaths (s : Schema) : s.partsOfPaths.Nodup := by
  -- the second part tells the artifacts apart
  have hsecond : s.partsOfPaths.map (fun ps => ps[1]?) =
    [some "sql".toList, some "models.py".toList, some "app.py".toList, some "src".toList] := rfl
  refine List.Nodup.of_map (fun ps => ps[1]?) ?_
  rw [hsecond]
  decide

namespace Accepted

variable {s : Schema}

theorem nodup_places (h : s.Accepted) (out : Place) : (s.places out).Nodup := by
  rw [h.places_eq]
  refine List.Nodup.map_on (fun a ha b hb => ?_) s.nodup_partsOfPaths
  exact Place.below_inj (s.ne_up_of_mem a ha).2 (s.ne_up_of_mem b hb).2

theorem within_of_mem_places (h : s.Accepted) {out p : Place} (hp : p ∈ s.places out) : p.Within out := by
  rw [h.places_eq] at hp
  obtain ⟨parts, hparts, rfl⟩ := List.mem_map.1 hp
  obtain ⟨hne, hup⟩ := s.ne_up_of_mem parts hparts
  exact Place.within_below hne (fun x hx => ⟨h.isPart_of_mem hparts x hx, hup x hx⟩) out

end Accepted

theorem exists_text_of_mem_paths {s : Schema} (b : Bundle) {e : String × String} (he : e ∈ s.paths) :
    ∃ text, b.entries.get? e.1 = some text := by
  have hkeys : s.paths.map Prod.fst = b.entries.map Prod.fst := rfl
  refine Option.ne_none_iff_exists'.1 (fun hnone => (Entries.get?_eq_none_iff _ _).1 hnone ?_)
  rw [← hkeys]
  exact List.mem_map.2 ⟨e, he, rfl⟩

/-- **The files of a schema on a disk**: four, each at a place of its own inside the directory and with the text of its
artifact, while all other files are as they were before. -/
structure Written (s : Schema) (b : Bundle) (out : Place) (before after : Disk) : Prop where
  four : (s.places out).length = 4
  distinct : (s.places out).Nodup
  within : ∀ p ∈ s.places out, p.Within out
  texts : ∀ e ∈ s.paths, ∃ text, b.entries.get? e.1 = some text ∧
    after.content? (out.below (Path.parts e.2.toList)) = some text
  others : ∀ p ∉ s.places out, after.content? p = before.content? p

theorem Accepted.written {s : Schema} (h : s.Accepted) {directory : String} {b : Bundle} {before after : Disk}
    (hwrites : before.writeAll (s.filesUnder directory b) = (after, .ok ())) :
    s.Written b (Route.ofPath directory).place before after := by
  obtain ⟨htexts, hothers⟩ := Disk.content?_writeAll hwrites (by
    rw [places_filesUnder]
    exact h.nodup_places _)
  rw [places_filesUnder] at hothers
  refine ⟨rfl, h.nodup_places _, fun p => h.within_of_mem_places, fun e he => ?_, hothers⟩
  have htext := htexts _ (List.mem_map.2 ⟨e, he, rfl⟩)
  rw [Route.place_under] at htext
  obtain ⟨text, hget⟩ := exists_text_of_mem_paths b he
  rw [hget] at htext
  exact ⟨text, hget, htext⟩

end Schema

namespace CommandLine

variable {a : Arguments} {interpreter : Interpreter} {threshold : Int}

theorem Makes.accepted {s : Schema} {b : Bundle} (h : Makes a interpreter threshold s b) : s.Accepted := by
  obtain ⟨-, -, -, -, -, hpasses, -⟩ := h
  exact (Schema.errors_eq_nil_iff threshold s).1 hpasses

def books : List String := ["Keep books", "--paginate", "--out=site"]

end CommandLine
end Scaffold
