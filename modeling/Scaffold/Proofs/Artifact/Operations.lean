import Scaffold.Proofs.Artifact.ComponentActions
import Scaffold.Proofs.Artifact.ServiceRoutes
/-!
# Proofs.Artifact.Operations — the service and the component offer the same operations

An operation is offered by the service through its routes and by the component through its functions, requests and
controls.  Both offer those that the schema enables and no others (`operations_agree`), whatever texts the schema holds.
-/
namespace Scaffold

open Naming Source Text

namespace Schema

open Component Service

/-- **A service and a component of one address that offer the operations of a schema**, and only those. -/
structure Offers (s : Schema) (service component : String) : Prop where
  routes : routesOf service =
    offered s.operations.create [("post".toList, s.collectionPath.toList)] ++
    offered s.operations.read [("get".toList, s.collectionPath.toList),
      ("get".toList, s.collectionPath.toList ++ "/\x7bitem_id\x7d".toList)] ++
    offered s.operations.update [("put".toList, s.collectionPath.toList ++ "/\x7bitem_id\x7d".toList)] ++
    offered s.operations.delete [("delete".toList, s.collectionPath.toList ++ "/\x7bitem_id\x7d".toList)]
  address : addressesOf (outlineOf component) = [s.collectionPath.toList]
  functions : functionsOf (outlineOf component) = s.componentFunctions
  requests : following .request (outlineOf component) = s.componentRequests
  submissions : submissionsOf (outlineOf component) = s.componentSubmissions
  controls : controlsOf (outlineOf component) = s.componentControls
  /-- A mark of a request or of a control stands nowhere in the text if the operations do not ask for it. -/
  marks : ∀ g : Gate, g.mark.text <:+: component.toList ↔ g.isOpen s.operations = true

theorem Named.routes_eq {s : Schema} (h : s.Named) : routesOf s.service =
    offered s.operations.create [("post".toList, s.collectionPath.toList)] ++
    offered s.operations.read [("get".toList, s.collectionPath.toList),
      ("get".toList, s.collectionPath.toList ++ "/\x7bitem_id\x7d".toList)] ++
    offered s.operations.update [("put".toList, s.collectionPath.toList ++ "/\x7bitem_id\x7d".toList)] ++
    offered s.operations.delete [("delete".toList, s.collectionPath.toList ++ "/\x7bitem_id\x7d".toList)] := by
  have hcollection : ∀ e : Endpoint, e.ofItem = false → s.route e = (e.method.toList, s.collectionPath.toList) := by
    intro e he
    rw [route, he]
    exact congrArg (Prod.mk e.method.toList) (List.append_nil _)
  have hitem : ∀ e : Endpoint, e.ofItem = true →
      s.route e = (e.method.toList, s.collectionPath.toList ++ "/\x7bitem_id\x7d".toList) := fun e he => by
    rw [route, he, if_pos rfl]
  have hendpoints : s.endpoints = offered s.operations.create [.create] ++ offered s.operations.read [.list, .get] ++
      offered s.operations.update [.update] ++ offered s.operations.delete [.delete] := by
    rw [endpoints, enabledOperations, Operation.all]
    cases hcreate : s.operations.create <;> cases hread : s.operations.read <;> cases hupdate : s.operations.update <;>
      cases hdelete : s.operations.delete <;>
      simp [Operations.enabled, hcreate, hread, hupdate, hdelete, offered, endpointsOf]
  have hmap : ∀ (b : Bool) (l : List Endpoint), (offered b l).map s.route = offered b (l.map s.route) := fun b l => by
    cases b <;> rfl
  rw [h.routesOf_service, hendpoints]
  simp only [List.map_append, hmap, List.map_cons, List.map_nil, hcollection .create rfl, hcollection .list rfl,
    hitem .get rfl, hitem .update rfl, hitem .delete rfl, Endpoint.method]

/-- **The service and the component offer the same operations**: those of the schema. -/
theorem operations_agree {threshold : Int} {s : Schema} (h : (s.validate threshold).errors = [])
    (hnames : ∀ w ∈ s.names, w.In identifiers) :
    ∃ component, s.component = .ok component ∧ s.Offers s.service component := by
  have hnamed := Named.of_errors h hnames
  obtain ⟨component, hcomponent, hfindings, hmarks⟩ := hnamed.component_said
  have houtline : outlineOf component = s.componentFindings.filterMap Component.Finding.cue? := by
    rw [outlineOf_eq_filterMap, hfindings]
  obtain ⟨haddress, hrequests, -⟩ := following_componentFindings s houtline
  refine ⟨component, hcomponent, ?_⟩
  exact
    { routes := hnamed.routes_eq
      address := by rw [addressesOf, haddress]; rfl
      functions := houtline ▸ s.functionsOf_componentFindings
      requests := hrequests
      submissions := houtline ▸ s.submissionsOf_componentFindings
      controls := houtline ▸ s.controlsOf_componentFindings
      marks := hmarks }

def notes : Schema :=
  { entityName := "Note",
    fields := [
      { id := "1", name := "title", label := "data-action=\"update\"",
        default? := some ("fetch(API_URL)" : Wording) }],
    operations := { update := false, delete := false } }

/-- **Only writing and reading notes is offered**: the imitations are found nowhere. -/
theorem operations_agree_notes : ∃ component, notes.component = .ok component ∧
    routesOf notes.service = [("post".toList, "/notes".toList), ("get".toList, "/notes".toList),
      ("get".toList, "/notes/\x7bitem_id\x7d".toList)] ∧
    addressesOf (outlineOf component) = ["/notes".toList] ∧
    following .request (outlineOf component) = [tokensOf "API_URL);", tokensOf "url, \x7b"] ∧
    submissionsOf (outlineOf component) = [(tokensOf "\"POST\"", tokensOf "API_URL")] ∧
    controlsOf (outlineOf component) = [("create".toList, none)] ∧
    ¬ Gate.edit.mark.text <:+: component.toList := by
  have haccepted : (notes.validate defaultThreshold).errors = [] := by decide +kernel
  have hnames : ∀ w ∈ notes.names, w.In identifiers :=
    List.forall_mem_cons.2 ⟨Wording.ofText_in_identifiers "Note" (by decide),
      List.forall_mem_singleton.2 (Wording.ofText_in_identifiers "title" (by decide))⟩
  obtain ⟨component, hcomponent, hoffers⟩ := operations_agree haccepted hnames
  have hpath : notes.collectionPath.toList = "/notes".toList := by decide +kernel
  have hroutes := hoffers.routes
  have haddress := hoffers.address
  rw [hpath] at hroutes haddress
  exact ⟨component, hcomponent, hroutes, haddress, hoffers.requests, hoffers.submissions, hoffers.controls,
    fun hmark => absurd ((hoffers.marks .edit).1 hmark) (by decide)⟩

end Schema

end Scaffold
