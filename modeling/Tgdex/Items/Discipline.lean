import Tgdex.Elastic.ServiceRules
import Tgdex.Items.Programs

namespace Tgdex.Items

open Tgdex.Data Tgdex.Java Tgdex.Effects Tgdex.Elastic Tgdex.Query

/-! # The discipline of the item handlers

Every call that an item handler can come to reads no static field but the count
of its own lookup, writes documents under their own id only, and creates one
only right after a lookup of that id. -/

variable {α : Type}

def WellFormed : Call → Prop
  | .bulkIndex (some id) document => isValidUuid id = true ∧ document.get? "id" = some (.str id)
  | .bulkIndex none _ => False
  | .update id partialDocument => partialDocument.get? "id" = some (.str id)
  | _ => True

def IsSearch : Call → Prop
  | .search _ _ => True
  | _ => False

/-- The next call of the task creates or replaces the document with this id. -/
def StartsWriting (task : Work α) (id : String) : Prop :=
  ∃ document resume, task = .await (.bulkIndex (some id) document) resume

theorem not_startsWriting_done (result : α) (id : String) : ¬StartsWriting (.done result : Work α) id := by
  intro shown
  obtain ⟨document, resume, same⟩ := shown
  cases same

structure Disciplined (call : Call) (resume : Reply call → Statics → Work α) : Prop where
  reads : ReadsOwn countWritten Statics.totalHits call resume
  wellFormed : WellFormed call
  notSearch : ¬IsSearch call
  looksUp : ∀ reply statics id, StartsWriting (resume reply statics) id →
    call = .singleSearch (.leaf (.term "id.keyword" id)) ∧ statics.totalHits = 0 ∧ ∃ answer, reply = .ok answer

theorem disciplined_last {call : Call} {result : Reply call → α} (wellFormed : WellFormed call)
    (notSearch : ¬IsSearch call) : Disciplined call fun reply _ => .done (result reply) where
  reads := fun _ _ _ _ => rfl
  wellFormed := wellFormed
  notSearch := notSearch
  looksUp := fun _ _ id writes => absurd writes (not_startsWriting_done _ id)

theorem disciplined_single {query : Query} {next : Settled (ElasticsearchResponse × Statics) → Work α}
    (byCount : ByCount next) (failed : ∀ cause id, ¬StartsWriting (next (.failure cause)) id)
    (writes : ∀ response statics id, StartsWriting (next (.success (response, statics))) id →
      query = .leaf (.term "id.keyword" id) ∧ statics.totalHits = 0) :
    Disciplined (.singleSearch query) fun reply statics => next (Future.delivered (singleResult reply statics)) where
  reads := readsOwn_single byCount
  wellFormed := trivial
  notSearch := id
  looksUp := by
    intro reply statics id writing
    cases reply with
    | error reason => exact absurd writing (failed _ id)
    | ok answer =>
        cases settled : singleResult (.ok answer) statics with
        | failure cause =>
            rw [settled] at writing
            exact absurd writing (failed _ id)
        | pending =>
            rw [settled] at writing
            exact absurd writing (failed _ id)
        | success found =>
            obtain ⟨response, seen⟩ := found
            obtain rfl := singleResult_success settled
            rw [settled] at writing
            obtain ⟨rfl, none⟩ := writes response seen id writing
            exact ⟨rfl, none, answer, rfl⟩

theorem disciplined_getSingleDocument {model : QueryModel}
    {next : Settled (ElasticsearchResponse × Statics) → Work α} (byCount : ByCount next)
    (failed : ∀ cause id, ¬StartsWriting (next (.failure cause)) id)
    (writes : ∀ query response statics id, Converts model query →
      StartsWriting (next (.success (response, statics))) id →
      query = .leaf (.term "id.keyword" id) ∧ statics.totalHits = 0)
    (rest : ∀ settled, (next settled).Always Disciplined) :
    ((getSingleDocument model).bind next).Always Disciplined :=
  always_getSingleDocument
    (fun query converted => disciplined_single byCount failed fun response statics id =>
      writes query response statics id converted) rest

section

variable {wire : Wire} {document : JsonObject} {id : String} {result : Settled Unit → α}

theorem disciplined_createDocuments (valid : isValidUuid id = true) (stored : document.get? "id" = some (.str id)) :
    ((createDocuments wire document).bind fun settled => .done (result settled) : Work α).Always Disciplined := by
  have written := wire.written_text stored (ne_empty_of_isValidUuid valid)
  simp only [createDocuments, executeBulkIndex]
  rw [JsonObject.getString_of_get? (wire.carry_text stored)]
  exact ⟨disciplined_last ⟨valid, written⟩ fun search => search, fun _ _ => trivial⟩

theorem disciplined_updateDocument (visible : id ≠ "") (stored : document.get? "id" = some (.str id)) :
    ((updateDocument wire id document).bind fun settled => .done (result settled) : Work α).Always Disciplined := by
  have written := wire.written_text stored visible
  simp only [updateDocument, Future.proxied, Future.compose]
  cases Elastic.validateId (some id) with
  | failure cause => trivial
  | pending => trivial
  | success _ =>
      refine ⟨⟨fun _ _ _ _ => rfl, trivial, fun search => search, ?_⟩, fun reply statics => ?_⟩
      · rintro reply statics other ⟨written, resume, same⟩
        rcases reply with reason | _ | _ <;> cases same
      · rcases reply with reason | _ | _
        · trivial
        · trivial
        · exact ⟨disciplined_last written fun search => search, fun _ _ => trivial⟩

theorem disciplined_deleteDocument {docId : Option String} :
    ((deleteDocument docId).bind fun settled => .done (result settled) : Work α).Always Disciplined := by
  simp only [deleteDocument, Future.proxied, Future.compose]
  cases Elastic.validateId docId with
  | success _ => exact ⟨disciplined_last trivial fun search => search, fun _ _ => trivial⟩
  | failure cause => trivial
  | pending => trivial

theorem not_startsWriting_deleteDocument {docId : Option String} {written : String} :
    ¬StartsWriting ((deleteDocument docId).bind fun settled => .done (result settled) : Work α) written := by
  intro shown
  obtain ⟨document, resume, same⟩ := shown
  simp only [deleteDocument, Future.proxied, Future.compose] at same
  cases checked : Elastic.validateId docId <;> rw [checked] at same <;> cases same

theorem not_startsWriting_updateDocument {written : String} :
    ¬StartsWriting ((updateDocument wire id document).bind fun settled => .done (result settled) : Work α) written := by
  intro shown
  obtain ⟨_, resume, same⟩ := shown
  simp only [updateDocument, Future.proxied, Future.compose] at same
  cases checked : Elastic.validateId (some id) <;> rw [checked] at same <;> cases same

theorem startsWriting_createDocuments {written : String} (stored : document.get? "id" = some (.str id))
    (writes : StartsWriting ((createDocuments wire document).bind fun settled => .done (result settled) : Work α)
      written) : written = id := by
  obtain ⟨_, resume, same⟩ := writes
  simp only [createDocuments, executeBulkIndex] at same
  rw [JsonObject.getString_of_get? (wire.carry_text stored)] at same
  cases same
  rfl

end

section

variable {config : Config} {caller : Caller} {method : Method} {body : Option JsonObject} {moment : Moment}

theorem disciplined_handleGetItem (caller : Caller) (id : Option String) :
    (handleGetItem config caller id).Always Disciplined := by
  simp only [handleGetItem]
  split
  · trivial
  · simp only [getItem]
    rw [Task.bind_assoc]
    refine disciplined_getSingleDocument ?_ (fun cause => not_startsWriting_done _) ?_ fun settled => trivial
    · intro response statics other same
      simp only [Task.done_bind, getItemResult, same]
    · intro query response statics written _ writes
      exact absurd writes (not_startsWriting_done _ _)

theorem disciplined_deleteRoute (caller : Caller) (id : Option String) :
    (deleteRoute caller id).Always Disciplined := by
  simp only [deleteRoute, guarded, handleDeleteItem]
  split
  · trivial
  split
  · trivial
  simp only [deleteItem]
  split
  · trivial
  simp only [Future.compose]
  rw [Task.bind_assoc]
  refine disciplined_getSingleDocument ?_ (fun cause => not_startsWriting_done _) ?_ fun settled => ?_
  · intro response statics other same
    simp only [same]
  · intro query response statics written _ writes
    simp only at writes
    split at writes
    · exact absurd writes (not_startsWriting_done _ _)
    split at writes
    · exact absurd writes (not_startsWriting_done _ _)
    rw [Task.bind_assoc] at writes
    exact absurd writes not_startsWriting_deleteDocument
  · cases settled with
    | failure cause => trivial
    | pending => trivial
    | success found =>
        simp only
        split
        · trivial
        split
        · trivial
        rw [Task.bind_assoc]
        exact disciplined_deleteDocument

variable {principal given : JsonObject} {item : Item} {id : String} {result : Settled Unit → List Outcome}

theorem disciplined_createItem (submitted : Submitted principal given item id) :
    ((createItem config item).bind fun settled => .done (result settled) : Handler).Always Disciplined := by
  simp only [createItem, Future.compose]
  rw [submitted.getId]
  simp only [(not_blank_of_isValidUuid submitted.valid).1, Bool.false_eq_true, if_false, Task.bind_assoc]
  refine disciplined_getSingleDocument ?_ (fun cause => not_startsWriting_done _) ?_ fun settled => ?_
  · intro response statics other same
    simp only [same]
  · intro query response statics written converted writes
    simp only at writes
    split at writes
    · exact absurd writes (not_startsWriting_done _ _)
    · rename_i none
      obtain rfl := startsWriting_createDocuments submitted.id writes
      exact ⟨converted.unique (converts_termQuery "id.keyword" written), by omega⟩
  · cases settled with
    | failure cause => trivial
    | pending => trivial
    | success found =>
        simp only
        split
        · trivial
        · exact disciplined_createDocuments submitted.valid submitted.id

theorem disciplined_updateItem (submitted : Submitted principal given item id) {update : Future Unit}
    (updates : updateItem config item = .ok update) :
    (update.bind fun settled => .done (result settled) : Handler).Always Disciplined := by
  rcases updateItem_cases updates with rfl | ⟨types, other, type, -, -, named, -, rfl⟩
  · trivial
  obtain rfl : id = other := Option.some.inj (submitted.getId.symm.trans named)
  simp only [updateProgram, Future.compose]
  rw [Task.bind_assoc]
  refine disciplined_getSingleDocument ?_ (fun cause => not_startsWriting_done _) ?_ fun settled => ?_
  · intro response statics other same
    simp only [same]
  · intro query response statics written _ writes
    simp only at writes
    split at writes
    · exact absurd writes (not_startsWriting_done _ _)
    · exact absurd writes not_startsWriting_updateDocument
  · cases settled with
    | failure cause => trivial
    | pending => trivial
    | success found =>
        simp only
        split
        · trivial
        · exact disciplined_updateDocument (ne_empty_of_isValidUuid submitted.valid) submitted.id

theorem not_startsWriting_getSingleDocument {model : QueryModel}
    {next : Settled (ElasticsearchResponse × Statics) → Work α}
    {written : String} (failed : ∀ cause, ¬StartsWriting (next (.failure cause)) written) :
    ¬StartsWriting ((getSingleDocument model).bind next) written := by
  intro shown
  obtain ⟨document, resume, same⟩ := shown
  simp only [getSingleDocument, performSingleSearch] at same
  split at same
  · exact failed _ ⟨document, resume, same⟩
  · cases same

theorem not_startsWriting_storeItem (submitted : Submitted principal given item id) {handler : Handler}
    (stored : storeItem config method item = .ok handler) (written : String) : ¬StartsWriting handler written := by
  rcases storeItem_cases stored with ⟨-, rfl⟩ | ⟨update, -, updates, rfl⟩
  · simp only [createItem, Future.compose]
    rw [submitted.getId]
    simp only [(not_blank_of_isValidUuid submitted.valid).1, Bool.false_eq_true, if_false, Task.bind_assoc]
    exact not_startsWriting_getSingleDocument fun cause => not_startsWriting_done _ _
  · rcases updateItem_cases updates with rfl | ⟨types, other, type, -, -, -, -, rfl⟩
    · exact not_startsWriting_done _ _
    · simp only [updateProgram, Future.compose]
      rw [Task.bind_assoc]
      exact not_startsWriting_getSingleDocument fun cause => not_startsWriting_done _ _

theorem not_startsWriting_onValidated (submission : Submission config caller method body moment)
    (settled : Settled (ElasticsearchResponse × Statics)) (written : String) :
    ¬StartsWriting (onValidated config method (submission.validated settled)) written := by
  rcases onValidated_cases config method (submission.validated settled) with
    ⟨outcomes, done, -⟩ | ⟨request, item, handler, success, parsed, stored, goes⟩
  · rw [done]
    exact not_startsWriting_done _ _
  · rw [goes]
    obtain ⟨id, -, submitted⟩ := submission.submitted_item success parsed
    exact not_startsWriting_storeItem submitted stored written

theorem disciplined_submission (submission : Submission config caller method body moment) :
    submission.program.Always Disciplined := by
  refine disciplined_getSingleDocument ?_ (fun cause => not_startsWriting_onValidated submission _) ?_ fun settled => ?_
  · intro response statics other same
    exact congrArg (onValidated config method) (submission.validated_byCount response same)
  · intro query response statics written _ writes
    exact absurd writes (not_startsWriting_onValidated submission _ written)
  · rcases onValidated_cases config method (submission.validated settled) with
      ⟨outcomes, done, -⟩ | ⟨request, item, handler, success, parsed, stored, goes⟩
    · rw [done]
      trivial
    · rw [goes]
      obtain ⟨id, -, submitted⟩ := submission.submitted_item success parsed
      rcases storeItem_cases stored with ⟨-, rfl⟩ | ⟨update, -, updates, rfl⟩
      · exact disciplined_createItem submitted
      · exact disciplined_updateItem submitted updates

theorem disciplined_createOrUpdate : (createOrUpdate config caller method body moment).Always Disciplined := by
  rcases createOrUpdate_cases config caller method body moment with ⟨outcomes, done, -⟩ | ⟨submission, goes⟩
  · rw [done]
    trivial
  · rw [goes]
    exact disciplined_submission submission

end

theorem disciplined_handler (config : Config) (request : ItemRequest) :
    (request.handler config).Always Disciplined := by
  cases request with
  | post caller body moment => exact disciplined_createOrUpdate
  | put caller body moment => exact disciplined_createOrUpdate
  | get caller id => exact disciplined_handleGetItem caller id
  | delete caller id => exact disciplined_deleteRoute caller id

theorem not_startsWriting_handler (config : Config) (request : ItemRequest) (written : String) :
    ¬StartsWriting (request.handler config) written := by
  have submits : ∀ {caller method body moment},
      ¬StartsWriting (createOrUpdate config caller method body moment) written := by
    intro caller method body moment
    rcases createOrUpdate_cases config caller method body moment with ⟨outcomes, done, -⟩ | ⟨submission, goes⟩
    · rw [done]
      exact not_startsWriting_done _ _
    · rw [goes]
      exact not_startsWriting_getSingleDocument fun cause => not_startsWriting_onValidated submission _ written
  cases request with
  | post caller body moment => exact submits
  | put caller body moment => exact submits
  | get caller id =>
      simp only [ItemRequest.handler, handleGetItem, getItem]
      split
      · exact not_startsWriting_done _ _
      · rw [Task.bind_assoc]
        exact not_startsWriting_getSingleDocument fun cause => not_startsWriting_done _ _
  | delete caller id =>
      simp only [ItemRequest.handler, deleteRoute, guarded, handleDeleteItem, deleteItem, Future.compose]
      split
      · exact not_startsWriting_done _ _
      split
      · exact not_startsWriting_done _ _
      split
      · exact not_startsWriting_done _ _
      · rw [Task.bind_assoc]
        exact not_startsWriting_getSingleDocument fun cause => not_startsWriting_done _ _

end Tgdex.Items
