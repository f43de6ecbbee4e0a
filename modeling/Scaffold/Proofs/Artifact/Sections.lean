import Mathlib.Data.List.Nodup
import Scaffold.Artifact.Model
import Scaffold.Artifact.Script
import Scaffold.Artifact.Service
import Scaffold.Proofs.Text.Parts
import Scaffold.Schema.Edit
/-!
# Proofs.Artifact.Sections — what belongs to an operation, and what does not

The service is written in sections, each of which belongs to one operation or to none (`sections`).  What the sections
say does not depend on the operations, only which of them are there (`serviceLines_eq_linesOf`), and script and model
depend on the operations not at all.  So an operation that is switched off takes its own blocks with it and leaves
everything else as it is, whatever else is switched off before or after (`switching_off_removes_own_blocks`).
-/
namespace Scaffold

open Text

namespace Operations

@[simp] theorem enabled_set (ops : Operations) (op : Operation) (b : Bool) (other : Operation) :
    (ops.set op b).enabled other = if other = op then b else ops.enabled other := by
  cases op <;> cases other <;> rfl

@[simp] theorem set_set (ops : Operations) (op : Operation) (a b : Bool) : (ops.set op a).set op b = ops.set op b := by
  cases op <;> rfl

end Operations

namespace Schema

def permit (s : Schema) (op : Operation) (b : Bool) : Schema := { s with operations := s.operations.set op b }

def without (s : Schema) (ops : List Operation) : Schema := ops.foldl (fun t op => t.permit op false) s

/-- **A section of the service**, and the operation that it belongs to. -/
structure Section where
  owner? : Option Operation
  lines : List String

namespace Section

/-- The section is there if it belongs to no operation or to one that is enabled. -/
def isKept (enabled : Operation → Bool) (x : Section) : Bool := x.owner?.all enabled

def linesOf (l : List Section) : List String := l.flatMap lines

theorem linesOf_append (l m : List Section) : linesOf (l ++ m) = linesOf l ++ linesOf m := List.flatMap_append

end Section

open Section

def endpointSections (s : Schema) (op : Operation) : List Section :=
  (endpointsOf op).map (fun e => ⟨some op, s.endpointBlock e⟩)

def requestSection (s : Schema) (op : Operation) : Section := ⟨some op, s.requestBlock op⟩

def sections (s : Schema) : List Section :=
  [⟨none, s.serviceHead⟩] ++ Operation.all.map s.requestSection ++ [⟨none, s.answerBlock⟩] ++
    Operation.all.flatMap s.endpointSections ++ [⟨none, serviceTail⟩]

def present (s : Schema) : List Section := s.sections.filter (isKept s.operations.enabled)

def endpointBlocks (s : Schema) (op : Operation) : List String := (endpointsOf op).flatMap s.endpointBlock

theorem linesOf_filter_requests (s : Schema) (enabled : Operation → Bool) (l : List Operation) :
    linesOf ((l.map s.requestSection).filter (isKept enabled)) = (l.filter enabled).flatMap s.requestBlock := by
  rw [linesOf, List.filter_map, List.flatMap_map]
  rfl

theorem linesOf_filter_endpoints (s : Schema) (enabled : Operation → Bool) (l : List Operation) :
    linesOf ((l.flatMap s.endpointSections).filter (isKept enabled)) =
      ((l.filter enabled).flatMap endpointsOf).flatMap s.endpointBlock := by
  induction l with
  | nil => rfl
  | cons op l ih =>
    have hall : ∀ x ∈ s.endpointSections op, isKept enabled x = enabled op := fun x hx => by
      obtain ⟨e, -, rfl⟩ := List.mem_map.1 hx
      rfl
    rw [List.flatMap_cons, List.filter_append, linesOf, List.flatMap_append, ← linesOf, ← linesOf, ih]
    cases hop : enabled op with
    | true =>
      rw [List.filter_eq_self.2 (fun x hx => (hall x hx).trans hop), List.filter_cons_of_pos hop, List.flatMap_cons,
        List.flatMap_append, linesOf, endpointSections, List.flatMap_map]
    | false =>
      rw [List.filter_eq_nil_iff.2 (fun x hx => by rw [hall x hx, hop]; simp), List.filter_cons_of_neg (by simp [hop])]
      rfl

/-- **The lines of the service are those of its sections that are there.** -/
theorem serviceLines_eq_linesOf (s : Schema) : s.serviceLines = linesOf s.present := by
  have hnone : ∀ lines, isKept s.operations.enabled ⟨none, lines⟩ = true := fun _ => rfl
  rw [present, sections]
  simp only [List.filter_append, linesOf_append, linesOf_filter_requests, linesOf_filter_endpoints, List.filter_cons,
    hnone, if_true, List.filter_nil]
  simp [serviceLines, linesOf, endpoints, enabledOperations]

/-! ## Text -/

def written (l : List String) : String := String.join (l.map (· ++ "\n"))

theorem written_append (l m : List String) : written (l ++ m) = written l ++ written m := by
  rw [written, List.map_append, String.join_append]
  rfl

theorem service_eq (s : Schema) : s.service = written s.serviceLines := by
  have hne : s.serviceLines ≠ [] := List.append_ne_nil_of_right_ne_nil _ (by decide)
  refine String.toList_inj.1 ?_
  rw [service, toList_lines hne, written, String.toList_join, List.flatMap_map, List.flatMap_map]
  simp

/-! ## Switching off -/

theorem script_permit (s : Schema) (op : Operation) (b : Bool) : (s.permit op b).script = s.script := rfl

theorem model_permit (s : Schema) (op : Operation) (b : Bool) : (s.permit op b).model = s.model := rfl

theorem exists_sections_eq (s : Schema) (op : Operation) : ∃ before between after : List Section,
    s.sections = before ++ [s.requestSection op] ++ between ++ s.endpointSections op ++ after ∧
      ∀ x ∈ before ++ between ++ after, x.owner? ≠ some op := by
  obtain ⟨l, m, hall⟩ := List.append_of_mem (show op ∈ Operation.all by cases op <;> decide)
  have hnodup : (l ++ op :: m).Nodup := hall ▸ (by decide)
  have hout : ∀ other ∈ l ++ m, other ≠ op := fun other hother hop =>
    (List.nodup_cons.1 (List.nodup_middle.1 hnodup)).1 (hop ▸ hother)
  refine ⟨⟨none, s.serviceHead⟩ :: l.map s.requestSection,
    m.map s.requestSection ++ ⟨none, s.answerBlock⟩ :: l.flatMap s.endpointSections,
    m.flatMap s.endpointSections ++ [⟨none, serviceTail⟩], by simp [sections, hall], ?_⟩
  -- what stands around belongs to none, or to an operation before or behind
  simp only [List.mem_append, List.mem_cons, List.mem_map, List.mem_flatMap, endpointSections, requestSection] at hout ⊢
  grind

/-- **The sections of an enabled operation stand in two places**, and between them only what is not its own. -/
theorem exists_present_eq (s : Schema) {op : Operation} (h : s.operations.enabled op = true) :
    ∃ before between after : List Section,
      s.present = before ++ [s.requestSection op] ++ between ++ s.endpointSections op ++ after ∧
      ∀ x ∈ before ++ between ++ after, x.owner? ≠ some op := by
  obtain ⟨before, between, after, hsections, hout⟩ := s.exists_sections_eq op
  have hrequest : [s.requestSection op].filter (isKept s.operations.enabled) = [s.requestSection op] :=
    List.filter_cons_of_pos h
  have hendpoints : (s.endpointSections op).filter (isKept s.operations.enabled) = s.endpointSections op :=
    List.filter_eq_self.2 (fun x hx => by
      obtain ⟨e, -, rfl⟩ := List.mem_map.1 hx
      exact h)
  refine ⟨before.filter (isKept s.operations.enabled), between.filter (isKept s.operations.enabled),
    after.filter (isKept s.operations.enabled), ?_, fun x hx => hout x ?_⟩
  · rw [present, hsections]
    simp only [List.filter_append, hrequest, hendpoints]
  · rw [← List.filter_append, ← List.filter_append] at hx
    exact List.mem_of_mem_filter hx

theorem present_permit_false (s : Schema) (op : Operation) :
    (s.permit op false).present = s.present.filter (isKept (fun other => decide (other ≠ op))) := by
  rw [present, present, List.filter_filter]
  refine List.filter_congr (fun x _ => ?_)
  obtain ⟨_ | other, lines⟩ := x
  · rfl
  · by_cases hother : other = op <;> simp [isKept, permit, hother]

theorem present_without (s : Schema) (ops : List Operation) :
    (s.without ops).present = s.present.filter (isKept (fun op => decide (op ∉ ops))) := by
  induction ops generalizing s with
  | nil => exact (List.filter_eq_self.2 (fun x _ => by cases hx : x.owner? <;> simp [isKept, hx])).symm
  | cons op ops ih =>
    have hstep : s.without (op :: ops) = (s.permit op false).without ops := rfl
    rw [hstep, ih, present_permit_false, List.filter_filter]
    refine List.filter_congr (fun x _ => ?_)
    cases hx : x.owner? <;> simp [isKept, hx, Bool.and_comm]

theorem toggleOperation_eq (s : Schema) {op : Operation} (h : s.operations.enabled op = true) :
    s.toggleOperation (.str op.name) = .ok (s.permit op false) := by
  have hop : Operation.ofJson? (.str op.name) = some op := by cases op <;> decide
  rw [toggleOperation, hop]
  simp [Operations.toggle, permit, h]

def toggleAll (s : Schema) (ops : List Operation) : Except EditError Schema :=
  ops.foldlM (fun t op => t.toggleOperation (.str op.name)) s

theorem toggleAll_eq {s : Schema} {ops : List Operation} (hnodup : ops.Nodup)
    (h : ∀ op ∈ ops, s.operations.enabled op = true) : s.toggleAll ops = .ok (s.without ops) := by
  induction ops generalizing s with
  | nil => rfl
  | cons op ops ih =>
    obtain ⟨hop, hnodup⟩ := List.nodup_cons.1 hnodup
    have hrest : ∀ other ∈ ops, (s.permit op false).operations.enabled other = true := fun other hother => by
      have hne : other ≠ op := fun heq => hop (heq ▸ hother)
      rw [permit, Operations.enabled_set, if_neg hne]
      exact h other (List.mem_cons_of_mem op hother)
    rw [toggleAll, List.foldlM_cons, s.toggleOperation_eq (h op List.mem_cons_self)]
    exact ih hnodup hrest

theorem storage_without (s : Schema) (ops : List Operation) :
    (s.without ops).script = s.script ∧ (s.without ops).model = s.model := by
  induction ops generalizing s with
  | nil => exact ⟨rfl, rfl⟩
  | cons op ops ih => exact ih (s.permit op false)

/-- **A schema with an operation and the same schema without it.**  The tables are the same; the service loses the
operation's request model and its endpoints, each in one piece, and nothing else. -/
structure Loses (op : Operation) (on off : Schema) : Prop where
  toggled : on.toggleOperation (.str op.name) = .ok off
  script : off.script = on.script
  model : off.model = on.model
  service : ∃ before between after : List Section,
    on.present = before ++ [on.requestSection op] ++ between ++ on.endpointSections op ++ after ∧
    (∀ x ∈ before ++ between ++ after, x.owner? ≠ some op) ∧
    on.serviceLines = linesOf before ++ on.requestBlock op ++ linesOf between ++ on.endpointBlocks op ++ linesOf after ∧
    off.serviceLines = linesOf before ++ linesOf between ++ linesOf after ∧
    on.service = written (linesOf before) ++ written (on.requestBlock op) ++ written (linesOf between) ++
      written (on.endpointBlocks op) ++ written (linesOf after) ∧
    off.service = written (linesOf before) ++ written (linesOf between) ++ written (linesOf after)

theorem loses_permit (s : Schema) {op : Operation} (h : s.operations.enabled op = true) :
    Loses op s (s.permit op false) := by
  obtain ⟨before, between, after, hpresent, hout⟩ := s.exists_present_eq h
  have hoff : (s.permit op false).present = before ++ between ++ after := by
    have hothers : (before ++ between ++ after).filter (isKept (fun other => decide (other ≠ op))) =
        before ++ between ++ after := List.filter_eq_self.2 (fun x hx => by
      have hx := hout x hx
      cases howner : x.owner? <;> simp_all [isKept])
    have hown : ∀ own : List Section, (∀ x ∈ own, x.owner? = some op) →
        own.filter (isKept (fun other => decide (other ≠ op))) = [] := fun own howner =>
      List.filter_eq_nil_iff.2 (fun x hx => by simp [isKept, howner x hx])
    have hrequest := hown [s.requestSection op] (List.forall_mem_singleton.2 rfl)
    have hendpoints := hown (s.endpointSections op) (List.forall_mem_map.2 (fun _ _ => rfl))
    rw [present_permit_false, hpresent]
    simp only [List.filter_append, hrequest, hendpoints, List.append_nil] at hothers ⊢
    exact hothers
  have hlines : s.serviceLines =
      linesOf before ++ s.requestBlock op ++ linesOf between ++ s.endpointBlocks op ++ linesOf after := by
    have hrequest : linesOf [s.requestSection op] = s.requestBlock op := List.append_nil _
    have hendpoints : linesOf (s.endpointSections op) = s.endpointBlocks op := List.flatMap_map ..
    rw [serviceLines_eq_linesOf, hpresent]
    simp only [linesOf_append, hrequest, hendpoints]
  have hfewer : (s.permit op false).serviceLines = linesOf before ++ linesOf between ++ linesOf after := by
    rw [serviceLines_eq_linesOf, hoff]
    simp only [linesOf_append]
  exact
    { toggled := s.toggleOperation_eq h
      script := s.script_permit op false
      model := s.model_permit op false
      service := ⟨before, between, after, hpresent, hout, hlines, hfewer,
        by simp only [service_eq, hlines, written_append], by simp only [service_eq, hfewer, written_append]⟩ }

/-- **Switching off an operation removes its blocks from the service and nothing else**, and operations that are
switched off leave, in whatever order, the sections of the others. -/
theorem switching_off_removes_own_blocks (s : Schema) :
    (∀ op, Loses op (s.permit op true) (s.permit op false)) ∧
    (∀ ops : List Operation, ops.Nodup → (∀ op ∈ ops, s.operations.enabled op = true) →
      s.toggleAll ops = .ok (s.without ops)) ∧
    (∀ ops : List Operation, (s.without ops).script = s.script ∧ (s.without ops).model = s.model ∧
      (s.without ops).serviceLines = linesOf (s.present.filter (isKept (fun op => decide (op ∉ ops))))) ∧
    ∀ ops others : List Operation, ops.Perm others → (s.without ops).script = (s.without others).script ∧
      (s.without ops).model = (s.without others).model ∧ (s.without ops).service = (s.without others).service := by
  refine ⟨fun op => ?_, fun ops => toggleAll_eq, fun ops => ⟨(s.storage_without ops).1, (s.storage_without ops).2, ?_⟩,
    fun ops others h => ⟨?_, ?_, ?_⟩⟩
  · have hon : (s.permit op true).operations.enabled op = true := by simp [permit]
    have hoff : (s.permit op true).permit op false = s.permit op false := by simp [permit]
    exact hoff ▸ (s.permit op true).loses_permit hon
  · rw [serviceLines_eq_linesOf, present_without]
  · rw [(s.storage_without ops).1, (s.storage_without others).1]
  · rw [(s.storage_without ops).2, (s.storage_without others).2]
  · have hmem : (fun op => decide (op ∉ ops)) = fun op => decide (op ∉ others) := funext fun op => by simp [h.mem_iff]
    rw [service_eq, service_eq, serviceLines_eq_linesOf, serviceLines_eq_linesOf, present_without, present_without,
      hmem]

def loans : Schema :=
  { entityName := "Loan",
    fields := [
      { id := "1", name := "due", type := .date, required := true },
      { id := "2", name := "rate", type := .number }] }

/-- **Loans that can no longer be made or changed** are the same in whichever order that was decided. -/
theorem loans_lose_writing :
    loans.toggleAll [.update, .create] = .ok (loans.without [.update, .create]) ∧
    (loans.without [.update, .create]).endpoints = [.list, .get, .delete] ∧
    (loans.without [.update, .create]).service = (loans.without [.create, .update]).service := by
  obtain ⟨-, htoggled, -, horder⟩ := loans.switching_off_removes_own_blocks
  exact ⟨htoggled [.update, .create] (by decide) (by decide), by decide,
    (horder [.update, .create] [.create, .update] (.swap _ _ _)).2.2⟩

end Schema
end Scaffold
