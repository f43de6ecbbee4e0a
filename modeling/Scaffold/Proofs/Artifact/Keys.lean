import Scaffold.Proofs.Artifact.ComponentText
import Scaffold.Proofs.Artifact.ModelText
import Scaffold.Proofs.Artifact.ServiceText
/-!
# Proofs.Artifact.Keys — the keys and attributes of the data fields

A data field has an attribute in the model, in the requests and in the answer of the service, and a key in the data that
they are filled from or give back, and in the form of the component.  As the texts are read, the attribute is the same
everywhere and the key is the name of the field (`keys_agree`).
-/
namespace Scaffold

open Naming Source Text

namespace Source

/-- **The key of a declared attribute**: the text that the argument with a keyword is, or the name of the attribute if
there is no such argument. -/
def Declaration.key? (keyword : String) (d : Declaration) : Option (List Nat) :=
  match keyword? keyword (callArguments d.value) with
  | none => some (d.name.map Char.toNat)
  | some [.quoted '"' l] => decode .module l
  | some _ => none

end Source

namespace Schema

def declaredKeys (keyword : String) (block : List (List Char)) : List (List Char × Option (List Nat)) :=
  (declarations block).map (fun d => (d.name, d.key? keyword))

def identityBinding : List Char × Option (List Nat) :=
  (identityName.toList, some (identityName.toList.map Char.toNat))

def bindings (s : Schema) (attrs : List String) : List (List Char × Option (List Nat)) :=
  (attrs.zip s.dataFields).map (fun p => (p.1.toList, some p.2.name.points))

theorem bindings_attributes (s : Schema) : s.bindings (s.attributes.map Prod.snd) =
    s.attributes.map (fun p => (p.2.toList, some p.1.name.points)) := by
  have hfields : s.dataFields = s.attributes.map Prod.fst := s.map_fst_attributes.symm
  rw [bindings, hfields, List.zip_map', List.map_map]
  rfl

namespace Named

variable {s : Schema}

theorem key?_of_alias (h : s.Named) {p : Field × String} (hp : p ∈ s.attributes) {d : Declaration} {k : String}
    (hname : d.name = p.2.toList) (halias : keyword? k (callArguments d.value) =
      (p.1.alias? p.2).map (fun name => [.quoted '"' (name.signs.flatMap literalSign)])) :
    d.key? k = some p.1.name.points := by
  have hf := mem_dataFields_of_mem_attributes hp
  rw [Declaration.key?, halias, Field.alias?, Wording.points, h.points_name hf]
  -- an alias is written exactly where the attribute is not the name
  by_cases hattr : (p.2 : Wording) = p.1.name
  · rw [if_pos hattr, hname, (h.ofText_eq_name_iff hf p.2).1 hattr]
    rfl
  · rw [if_neg hattr]
    exact h.decode_name hf .module

theorem declaredKeys_answer (h : s.Named) :
    declaredKeys "serialization_alias" (s.serviceClass "Out") =
      identityBinding :: s.bindings (s.attributes.map Prod.snd) := by
  rw [declaredKeys, h.declarations_answer, bindings_attributes, answerDeclarations, List.map_cons, List.map_map]
  refine congrArg₂ List.cons rfl (List.map_congr_left (fun p hp => Prod.ext rfl ?_))
  exact h.key?_of_alias hp rfl (AnswerField.keyword?_alias _)

end Named

end Schema
end Scaffold
