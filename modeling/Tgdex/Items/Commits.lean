import Tgdex.Effects.Linearization
import Tgdex.Effects.Masking
import Tgdex.Items.Discipline

namespace Tgdex.Items

open Tgdex.Data Tgdex.Java Tgdex.Effects Tgdex.Elastic Tgdex.Query

/-! # What the handlers write, and what they say about it -/

/-- A change of the index. -/
inductive Commit where
  | stored (id : String) (document : JsonObject)
  | merged (id : String) (partialDocument : JsonObject)
  | removed (id : String)

def Commit.apply (index : Index) : Commit → Index
  | .stored id document => index.insert id document
  | .merged id partialDocument =>
      match index.lookup id with
      | some document => index.insert id (document.mergeDeep partialDocument)
      | none => index
  | .removed id => index.erase id

/-- When an index admits the change, and the index after it. -/
def Commit.Acts : Commit → Index → Index → Prop
  | .stored id document, index, next => next = index.insert id document
  | .merged id partialDocument, index, next =>
      ∃ document, index.lookup id = some document ∧ next = index.insert id (document.mergeDeep partialDocument)
  | .removed id, index, next => id ∈ index ∧ next = index.erase id

/-- The document that is changed. -/
def Commit.target : Commit → String
  | .stored id _ | .merged id _ | .removed id => id

theorem Commit.lookup_apply_other {commit : Commit} {docId : String} (other : commit.target ≠ docId) (index : Index) :
    (commit.apply index).lookup docId = index.lookup docId := by
  cases commit with
  | stored id document => exact AList.lookup_insert_ne (Ne.symm other)
  | merged id partialDocument =>
      simp only [apply]
      split
      · exact AList.lookup_insert_ne (Ne.symm other)
      · rfl
  | removed id => exact AList.lookup_erase_ne (Ne.symm other)

theorem lookup_foldl_other {changes : List Commit} {docId : String}
    (others : ∀ commit ∈ changes, commit.target ≠ docId) (index : Index) :
    (changes.foldl Commit.apply index).lookup docId = index.lookup docId := by
  induction changes generalizing index with
  | nil => rfl
  | cons commit rest ih =>
      obtain ⟨other, others⟩ := List.forall_mem_cons.mp others
      rw [List.foldl_cons, ih others, commit.lookup_apply_other other]

/-- The change that a reply reports. -/
def committed : (call : Call) → Reply call → Option Commit
  | .bulkIndex (some id) document, .ok false => some (.stored id document)
  | .update id partialDocument, .ok () => some (.merged id partialDocument)
  | .delete id, .ok true => some (.removed id)
  | _, _ => none

theorem call_of_stored {call : Call} {reply : Reply call} {id : String} {document : JsonObject}
    (made : committed call reply = some (.stored id document)) : call = .bulkIndex (some id) document := by
  cases call with
  | singleSearch query => cases made
  | search asked options => cases made
  | exists_ docId => cases made
  | update docId partialDocument => rcases reply with reason | _ <;> cases made
  | delete docId => rcases reply with reason | _ | _ <;> cases made
  | bulkIndex docId given =>
      cases docId with
      | none => cases made
      | some docId =>
          rcases reply with reason | _ | _ <;> cases made
          rfl

theorem acts_of_committed {engine : Engine} {call : Call} {choice : Choice} {index : Index} {commit : Commit}
    (made : committed call (engine.execute call choice index).1 = some commit) :
    commit.Acts index (engine.execute call choice index).2 := by
  cases choice with
  | fails reason => rcases call with _ | _ | ⟨_ | _, _⟩ | _ | _ | _ <;> cases made
  | answers ranking aggregate generatedId =>
      cases call with
      | singleSearch query => cases made
      | search asked options => cases made
      | exists_ docId => cases made
      | bulkIndex docId document =>
          cases docId with
          | none => cases made
          | some docId =>
              simp only [Engine.execute] at made ⊢
              split at made
              · rename_i accepted
                cases made
                rw [if_pos accepted]
                rfl
              · cases made
      | update docId partialDocument =>
          simp only [Engine.execute] at made ⊢
          split at made
          · cases made
          · rename_i document present
            split at made
            · rename_i accepted
              cases made
              rw [if_pos accepted]
              exact ⟨document, present, rfl⟩
            · cases made
      | delete docId =>
          simp only [Engine.execute] at made ⊢
          split at made
          · rename_i present
            cases made
            rw [if_pos present]
            exact ⟨present, rfl⟩
          · cases made

def applied (call : Call) (reply : Reply call) (index : Index) : Index :=
  ((committed call reply).map (Commit.apply index)).getD index

section

variable {Request : Type}

/-- The changes that one request has made. -/
def commitsOf (id : Nat) (events : List (Event Call Reply Request)) : List Commit :=
  effects committed (Event.exchangesOf id events)

def commitOf : Event Call Reply Request → Option Commit
  | .started _ _ => none
  | .called _ call reply => committed call reply

/-- The changes that all requests have made, in their order. -/
def commits (events : List (Event Call Reply Request)) : List Commit := events.filterMap commitOf

theorem commits_append (first rest : List (Event Call Reply Request)) :
    commits (first ++ rest) = commits first ++ commits rest := List.filterMap_append

@[simp] theorem commits_started (id : Nat) (request : Request) : commits [.started id request] = [] := rfl

@[simp] theorem commits_called (id : Nat) (call : Call) (reply : Reply call) :
    commits ([.called id call reply] : List (Event Call Reply Request)) = (committed call reply).toList := by
  simp only [commits, List.filterMap_cons, List.filterMap_nil, commitOf]
  cases committed call reply <;> rfl

theorem mem_commitsOf {id : Nat} {events : List (Event Call Reply Request)} {commit : Commit} :
    commit ∈ commitsOf id events ↔ ∃ call reply, .called id call reply ∈ events ∧ committed call reply = some commit := by
  simp only [commitsOf, effects, List.mem_filterMap, Sigma.exists, Event.mem_exchangesOf]

theorem mem_commits {events : List (Event Call Reply Request)} {commit : Commit} :
    commit ∈ commits events ↔ ∃ id, commit ∈ commitsOf id events := by
  simp only [mem_commitsOf, commits, List.mem_filterMap]
  refine ⟨fun shown => ?_, fun shown => ?_⟩
  · obtain ⟨event, member, same⟩ := shown
    cases event with
    | started id request => cases same
    | called id call reply => exact ⟨id, call, reply, member, same⟩
  · obtain ⟨id, call, reply, member, same⟩ := shown
    exact ⟨_, member, same⟩

theorem commits_cons {id : Nat} {call : Call} {reply : Reply call} {commit : Commit}
    (made : committed call reply = some commit) (rest : List (Event Call Reply Request)) :
    commits (.called id call reply :: rest) = commit :: commits rest := List.filterMap_cons_some made

/-- Changes of two requests come one after the other. -/
theorem commits_apart {first second : Nat} (differs : first ≠ second) {events : List (Event Call Reply Request)}
    {one two : Commit} (member : one ∈ commitsOf first events) (other : two ∈ commitsOf second events) :
    ∃ before between after, commits events = before ++ one :: (between ++ two :: after) ∨
      commits events = before ++ two :: (between ++ one :: after) := by
  obtain ⟨call, reply, called, made⟩ := mem_commitsOf.mp member
  obtain ⟨again, replied, shown, changed⟩ := mem_commitsOf.mp other
  obtain ⟨early, late, rfl⟩ := List.append_of_mem called
  have apart : Event.called second again replied ≠ (.called first call reply : Event Call Reply Request) := by
    rintro ⟨⟩
    exact differs rfl
  rcases List.mem_append.mp shown with earlier | later
  · obtain ⟨before, between, rfl⟩ := List.append_of_mem earlier
    refine ⟨commits before, commits between, commits late, .inr ?_⟩
    rw [commits_append, commits_append, commits_cons changed, commits_cons made, List.append_assoc, List.cons_append]
  · obtain ⟨between, after, rfl⟩ := List.append_of_mem ((List.mem_cons.mp later).resolve_left apart)
    refine ⟨commits early, commits between, commits after, .inl ?_⟩
    rw [commits_append, commits_cons made, commits_append, commits_cons changed]

theorem foldl_apply_events (events : List (Event Call Reply Request)) (index : Index) :
    events.foldl (Event.apply applied) index = (commits events).foldl Commit.apply index := by
  induction events generalizing index with
  | nil => rfl
  | cons event rest ih =>
      rw [List.foldl_cons, ih]
      cases event with
      | started id request => rfl
      | called id call reply =>
          simp only [commits, List.filterMap_cons, commitOf, Event.apply, applied]
          cases committed call reply <;> rfl

end

/-- The index changes only as the reply says. -/
theorem execute_eq_applied {engine : Engine} {call : Call} (wellFormed : WellFormed call) (choice : Choice)
    (index : Index) :
    (engine.execute call choice index).2 = applied call (engine.execute call choice index).1 index := by
  cases choice with
  | fails reason => rcases call with _ | _ | ⟨_ | _, _⟩ | _ | _ | _ <;> rfl
  | answers ranking aggregate generatedId =>
      cases call with
      | singleSearch query => rfl
      | search request options => rfl
      | exists_ id => rfl
      | bulkIndex id document =>
          cases id with
          | none => exact wellFormed.elim
          | some id =>
              simp only [Engine.execute]
              split <;> rfl
      | update id partialDocument =>
          simp only [Engine.execute]
          split
          · rfl
          · rename_i document present
            split
            · simp only [applied, committed, Option.map_some, Option.getD_some, Commit.apply, present]
            · rfl
      | delete id =>
          simp only [Engine.execute]
          split <;> rfl

theorem execute_of_none {engine : Engine} {call : Call} (wellFormed : WellFormed call) {choice : Choice} {index : Index}
    (quiet : committed call (engine.execute call choice index).1 = none) :
    (engine.execute call choice index).2 = index := by
  rw [execute_eq_applied wellFormed, applied, quiet]
  rfl

/-- What the response to a request that has made the change looks like. -/
def Shows (config : Config) (status : Nat) (body : JsonObject) : Commit → Prop
  | .stored _ document => status = 201 ∧ ∃ item : JsonObject,
      body.get? "results" = some (.obj (item.encoded config.held).fields) ∧ document = config.wire.written item
  | .merged _ partialDocument => status = 200 ∧ ∃ item : JsonObject,
      body.get? "results" = some (.obj (item.encoded config.held).fields) ∧ partialDocument = config.wire.written item
  | .removed _ => status = 200

/-- The first outcome tells of the change, and of no success when there was none. -/
def Reports (config : Config) (change : Option Commit) (outcomes : List Outcome) : Prop :=
  match change with
  | none => Refuses outcomes
  | some commit => ∃ status body, outcomes.head? = some (.ended status body) ∧ Shows config status body commit

section

variable {α : Type} {tells : Option Commit → α → Prop}

abbrev Confirming (tells : Option Commit → α → Prop) (had : Option Commit) (task : Work α) : Prop :=
  task.Confirming committed tells had

theorem confirming_refusal {config : Config} {outcomes : List Outcome} (refuses : Refuses outcomes) :
    Confirming (Reports config) none (.done outcomes) := refuses

theorem confirming_getSingleDocument {model : QueryModel}
    {next : Settled (ElasticsearchResponse × Statics) → Work α}
    (rest : ∀ settled, Confirming tells none (next settled)) :
    Confirming tells none ((getSingleDocument model).bind next) := by
  simp only [getSingleDocument, performSingleSearch]
  split
  · exact rest _
  · exact fun reply => ⟨fun _ => rfl, fun statics => rest _⟩

theorem confirming_createDocuments {wire : Wire} {document : JsonObject} {id : String} {next : Settled Unit → Work α}
    (named : (wire.carry document).getString "id" = some id)
    (failed : ∀ cause, Confirming tells none (next (.failure cause)))
    (stored : Confirming tells (some (.stored id (wire.written document))) (next (.success ()))) :
    Confirming tells none ((createDocuments wire document).bind next) := by
  simp only [createDocuments, executeBulkIndex]
  rw [named]
  refine fun reply => ⟨fun _ => rfl, fun statics => ?_⟩
  cases reply with
  | error reason => exact failed _
  | ok errors =>
      cases errors with
      | true => exact failed _
      | false => exact stored

theorem confirming_updateDocument {wire : Wire} {document : JsonObject} {id : String} {next : Settled Unit → Work α}
    (failed : ∀ cause, Confirming tells none (next (.failure cause)))
    (merged : Confirming tells (some (.merged id (wire.written document))) (next (.success ()))) :
    Confirming tells none ((updateDocument wire id document).bind next) := by
  simp only [updateDocument, Future.proxied, Future.compose]
  simp only [Elastic.validateId]
  split
  · exact failed _
  · refine fun reply => ⟨fun _ => rfl, fun statics => ?_⟩
    rcases reply with reason | _ | _
    · exact failed _
    · exact failed _
    · refine fun reply => ⟨fun _ => rfl, fun statics => ?_⟩
      rcases reply with reason | _
      · exact failed _
      · exact merged

theorem confirming_deleteDocument {docId : Option String} {next : Settled Unit → Work α}
    (failed : ∀ cause, Confirming tells none (next (.failure cause)))
    (removed : ∀ id, Confirming tells (some (.removed id)) (next (.success ()))) :
    Confirming tells none ((deleteDocument docId).bind next) := by
  simp only [deleteDocument, Future.proxied, Future.compose]
  cases checked : Elastic.validateId docId with
  | failure cause => exact failed _
  | pending => exact failed _
  | success _ =>
      refine fun reply => ⟨fun _ => rfl, fun statics => ?_⟩
      rcases reply with reason | _ | _
      · exact failed _
      · exact failed _
      · exact removed _

end

section

variable {config : Config} {caller : Caller} {method : Method} {body : Option JsonObject} {moment : Moment}
  {principal given : JsonObject} {item : Item} {id : String}

theorem confirming_writeFailure (status : Nat) (detail : String) (item : Item) (cause : Throwable) :
    Confirming (Reports config) none (.done (writeOutcome config.held status detail item (.failure cause))) :=
  confirming_refusal (refuses_single (Nat.le_refl 400))

theorem confirming_createItem (submitted : Submitted principal given item id) :
    Confirming (Reports config) none ((createItem config item).bind fun settled =>
      .done (writeOutcome config.held 201 "Success: Item created" item settled)) := by
  simp only [createItem, Future.compose]
  rw [submitted.getId]
  simp only [(not_blank_of_isValidUuid submitted.valid).1, Bool.false_eq_true, if_false, Task.bind_assoc]
  refine confirming_getSingleDocument fun settled => ?_
  cases settled with
  | failure cause => exact confirming_writeFailure _ _ _ cause
  | pending => exact confirming_refusal (by simp [Refuses, writeOutcome])
  | success found =>
      simp only
      split
      · exact confirming_writeFailure _ _ _ _
      · exact confirming_createDocuments (JsonObject.getString_of_get? (config.wire.carry_text submitted.id))
          (confirming_writeFailure _ _ _) ⟨201, _, rfl, rfl, item.toJson, results_getResponse _ _ _ _ _, rfl⟩

theorem confirming_updateItem {update : Future Unit} (updates : updateItem config item = .ok update) :
    Confirming (Reports config) none (update.bind fun settled =>
      .done (writeOutcome config.held 200 "Success: Item updated successfully" item settled)) := by
  rcases updateItem_cases updates with rfl | ⟨types, other, type, -, -, -, -, rfl⟩
  · exact confirming_writeFailure _ _ _ _
  simp only [updateProgram, Future.compose]
  rw [Task.bind_assoc]
  refine confirming_getSingleDocument fun settled => ?_
  cases settled with
  | failure cause => exact confirming_writeFailure _ _ _ cause
  | pending => exact confirming_refusal (by simp [Refuses, writeOutcome])
  | success found =>
      simp only
      split
      · exact confirming_writeFailure _ _ _ _
      · exact confirming_updateDocument (confirming_writeFailure _ _ _) ⟨200, _, rfl, rfl, item.toJson, results_getResponse _ _ _ _ _, rfl⟩

theorem confirming_createOrUpdate :
    Confirming (Reports config) none (createOrUpdate config caller method body moment) := by
  rcases createOrUpdate_cases config caller method body moment with ⟨outcomes, done, refuses⟩ | ⟨submission, goes⟩
  · rw [done]
    exact confirming_refusal refuses
  · rw [goes]
    refine confirming_getSingleDocument fun settled => ?_
    rcases onValidated_cases config method (submission.validated settled) with
      ⟨outcomes, done, refuses⟩ | ⟨request, item, handler, success, parsed, stored, continues⟩
    · rw [done]
      exact confirming_refusal refuses
    · rw [continues]
      obtain ⟨id, -, submitted⟩ := submission.submitted_item success parsed
      rcases storeItem_cases stored with ⟨-, rfl⟩ | ⟨update, -, updates, rfl⟩
      · exact confirming_createItem submitted
      · exact confirming_updateItem updates

theorem confirming_deleteRoute (config : Config) (caller : Caller) (id : Option String) :
    Confirming (Reports config) none (deleteRoute caller id) := by
  simp only [deleteRoute]
  cases token : checkIfTokenPresent caller with
  | some outcome => exact confirming_refusal (refuses_single (checkIfTokenPresent_some token))
  | none =>
      simp only [guarded, handleDeleteItem]
      split
      · exact confirming_refusal (refuses_single (Nat.le_refl 400))
      · rename_i given _
        have failed : ∀ cause, Confirming (Reports config) none (.done (deleteOutcome given (.failure cause))) :=
          fun cause => confirming_refusal (refuses_single (Nat.le_refl 400))
        simp only [deleteItem]
        split
        · exact failed _
        simp only [Future.compose]
        rw [Task.bind_assoc]
        refine confirming_getSingleDocument fun settled => ?_
        cases settled with
        | failure cause => exact failed cause
        | pending => exact confirming_refusal (by simp [Refuses, deleteOutcome])
        | success found =>
            simp only
            split
            · exact failed _
            split
            · exact failed _
            rw [Task.bind_assoc]
            exact confirming_deleteDocument (fun cause => failed _) fun id => ⟨200, _, rfl, rfl⟩

end

/-- What the client of an item request is told of what the request has changed. -/
def ItemRequest.Tells (config : Config) : ItemRequest → Option Commit → List Outcome → Prop
  | .get _ _ => fun change _ => change = none
  | _ => Reports config

theorem confirming_handler (config : Config) (request : ItemRequest) :
    (request.handler config).Confirming committed (request.Tells config) none := by
  cases request with
  | post caller body moment => exact confirming_createOrUpdate
  | put caller body moment => exact confirming_createOrUpdate
  | delete caller id => exact confirming_deleteRoute config caller id
  | get caller id =>
      refine Task.confirming_of_allCalls (fun _ => rfl) ?_
      simp only [ItemRequest.handler, handleGetItem]
      split
      · trivial
      · simp only [getItem]
        rw [Task.bind_assoc]
        exact always_getSingleDocument (fun _ _ _ => rfl) fun settled => trivial

/-- What a request of the principal stores, or merges, under the id. -/
structure WrittenFor (principal given : JsonObject) (moment : Moment) (id : String) (document : JsonObject) :
    Prop where
  addressed : (addId given moment).getString "id" = some id
  valid : isValidUuid id = true
  id : document.get? "id" = some (.str id)
  owner : document.get? "ownerUserId" = (notEmpty (principal.getString "sub")).map .str

/-- The calls that a request of the principal to create or update can come to. -/
def Permitted (method : Method) (principal given : JsonObject) (moment : Moment) : Call → Prop
  | .singleSearch _ => True
  | .exists_ _ => method = .put
  | .bulkIndex (some id) document => method = .post ∧ WrittenFor principal given moment id document
  | .update id partialDocument => method = .put ∧ WrittenFor principal given moment id partialDocument
  | .bulkIndex none _ | .search _ _ | .delete _ => False

theorem Submitted.writtenFor (config : Config) {principal given : JsonObject} {moment : Moment} {item : Item}
    {id : String} (submitted : Submitted principal given item id)
    (addressed : (addId given moment).getString "id" = some id) :
    WrittenFor principal given moment id (config.wire.written item.toJson) where
  addressed := addressed
  valid := submitted.valid
  id := config.wire.written_text submitted.id (ne_empty_of_isValidUuid submitted.valid)
  owner := config.wire.written_nullable submitted.owner

/-- Replies that differ in the reason of a failure at most. -/
def UpToReason (call : Call) (reply other : Reply call) : Prop :=
  reply = other ∨ ∃ reason another, reply = .error reason ∧ other = .error another

/-- The call is one of these, and how the handler goes on does not depend on why it failed. -/
def Discreet {α : Type} (P : Call → Prop) (call : Call) (resume : Reply call → Statics → Work α) : Prop :=
  Unaware P UpToReason call resume

section

variable {α β : Type} {P : Call → Prop}

theorem blind_of_errors {call : Call} {resume : Reply call → Statics → Work α}
    (same : ∀ reason another statics, resume (.error reason) statics = resume (.error another) statics) :
    Blind UpToReason call resume := by
  rintro reply other (rfl | ⟨reason, another, rfl, rfl⟩) statics
  · rfl
  · exact same reason another statics

theorem discreet_map {task : Work α} (all : task.Always (Discreet P)) (result : α → β) :
    (task.bind fun value => .done (result value)).Always (Discreet P) := by
  induction task with
  | done value => trivial
  | await call resume ih =>
      refine ⟨⟨all.1.1, fun reply other alike statics => ?_⟩, fun reply statics => ih reply statics (all.2 reply statics)⟩
      exact congrArg (fun task => task.bind fun value => .done (result value)) (all.1.2 reply other alike statics)

theorem discreet_getSingleDocument {model : QueryModel} {next : Settled (ElasticsearchResponse × Statics) → Work α}
    (lookup : ∀ query, P (.singleSearch query)) (rest : ∀ settled, (next settled).Always (Discreet P)) :
    ((getSingleDocument model).bind next).Always (Discreet P) :=
  always_getSingleDocument (fun query _ => ⟨lookup query, blind_of_errors fun _ _ _ => rfl⟩) rest

variable {result : Settled Unit → α}

theorem discreet_createDocuments {wire : Wire} {document : JsonObject} {id : String}
    (named : (wire.carry document).getString "id" = some id) (write : P (.bulkIndex (some id) (wire.written document))) :
    ((createDocuments wire document).bind fun settled => .done (result settled) : Work α).Always (Discreet P) := by
  simp only [createDocuments, executeBulkIndex]
  rw [named]
  exact ⟨⟨write, blind_of_errors fun _ _ _ => rfl⟩, fun _ _ => trivial⟩

theorem discreet_updateDocument {wire : Wire} {document : JsonObject} {id : String} (check : P (.exists_ id))
    (write : P (.update id (wire.written document))) :
    ((updateDocument wire id document).bind fun settled => .done (result settled) : Work α).Always (Discreet P) := by
  simp only [updateDocument, Future.proxied, Future.compose]
  cases Elastic.validateId (some id) with
  | failure cause => trivial
  | pending => trivial
  | success _ =>
      refine ⟨⟨check, blind_of_errors fun _ _ _ => rfl⟩, fun reply statics => ?_⟩
      rcases reply with reason | _ | _
      · trivial
      · trivial
      · exact ⟨⟨write, blind_of_errors fun _ _ _ => rfl⟩, fun _ _ => trivial⟩

theorem discreet_deleteDocument {docId : Option String} (write : ∀ id, P (.delete id)) :
    ((deleteDocument docId).bind fun settled => .done (result settled) : Work α).Always (Discreet P) := by
  simp only [deleteDocument, Future.proxied, Future.compose]
  cases Elastic.validateId docId with
  | success _ => exact ⟨⟨write _, blind_of_errors fun _ _ _ => rfl⟩, fun _ _ => trivial⟩
  | failure cause => trivial
  | pending => trivial

end

section

variable {config : Config} {caller : Caller} {method : Method} {body : Option JsonObject} {moment : Moment}

theorem permitted_storeItem {principal given : JsonObject} {item : Item} {id : String} {handler : Handler}
    (submitted : Submitted principal given item id) (addressed : (addId given moment).getString "id" = some id)
    (stored : storeItem config method item = .ok handler) :
    handler.Always (Discreet (Permitted method principal given moment)) := by
  have written := submitted.writtenFor config addressed
  rcases storeItem_cases stored with ⟨rfl, rfl⟩ | ⟨update, rfl, updates, rfl⟩
  · simp only [createItem, Future.compose]
    rw [submitted.getId]
    simp only [(not_blank_of_isValidUuid submitted.valid).1, Bool.false_eq_true, if_false, Task.bind_assoc]
    refine discreet_getSingleDocument (fun _ => trivial) fun settled => ?_
    cases settled with
    | failure cause => trivial
    | pending => trivial
    | success found =>
        simp only
        split
        · trivial
        · exact discreet_createDocuments (JsonObject.getString_of_get? (config.wire.carry_text submitted.id)) ⟨rfl, written⟩
  · rcases updateItem_cases updates with rfl | ⟨types, other, type, -, -, named, -, rfl⟩
    · trivial
    obtain rfl : id = other := Option.some.inj (submitted.getId.symm.trans named)
    simp only [updateProgram, Future.compose]
    rw [Task.bind_assoc]
    refine discreet_getSingleDocument (fun _ => trivial) fun settled => ?_
    cases settled with
    | failure cause => trivial
    | pending => trivial
    | success found =>
        simp only
        split
        · trivial
        · exact discreet_updateDocument rfl ⟨rfl, written⟩

theorem permitted_submission (submission : Submission config caller method body moment) :
    submission.program.Always (Discreet (Permitted method submission.principal submission.given moment)) := by
  refine discreet_getSingleDocument (fun _ => trivial) fun settled => ?_
  rcases onValidated_cases config method (submission.validated settled) with
    ⟨outcomes, done, -⟩ | ⟨request, item, handler, success, parsed, stored, goes⟩
  · rw [done]
    trivial
  · rw [goes]
    obtain ⟨id, addressed, submitted⟩ := submission.submitted_item success parsed
    exact permitted_storeItem submitted addressed stored

/-- A create changes the index only by storing under the id of its body, or the
one that it was given. -/
theorem stores_of_create (config : Config) (caller : Caller) (body : Option JsonObject) (moment : Moment) :
    (createOrUpdate config caller .post body moment).AllCalls fun call => ∀ reply commit,
      committed call reply = some commit → ∃ given id document, body = some given ∧
        (addId given moment).getString "id" = some id ∧ commit = .stored id document := by
  rcases createOrUpdate_cases config caller .post body moment with ⟨outcomes, done, -⟩ | ⟨submission, goes⟩
  · rw [done]
    trivial
  rw [goes]
  refine (permitted_submission submission).imp fun call resume discreet reply commit made => ?_
  have permitted := discreet.1
  cases call with
  | singleSearch query => cases made
  | search asked options => cases made
  | exists_ id => cases made
  | update id partialDocument => exact absurd permitted.1 (by decide)
  | delete id => exact absurd permitted not_false
  | bulkIndex id document =>
      cases id with
      | none => cases made
      | some id =>
          rcases reply with reason | _ | _ <;> cases made
          exact ⟨_, id, document, submission.hasBody, permitted.2.addressed, rfl⟩

theorem permitted_deleteRoute {P : Call → Prop} (caller : Caller) (id : Option String)
    (lookup : ∀ query, P (.singleSearch query)) (write : checkIfTokenPresent caller = none → ∀ id, P (.delete id)) :
    (deleteRoute caller id).Always (Discreet P) := by
  simp only [deleteRoute]
  cases token : checkIfTokenPresent caller with
  | some outcome => trivial
  | none =>
      simp only [guarded, handleDeleteItem]
      split
      · trivial
      simp only [deleteItem]
      split
      · trivial
      simp only [Future.compose]
      rw [Task.bind_assoc]
      refine discreet_getSingleDocument lookup fun settled => ?_
      cases settled with
      | failure cause => trivial
      | pending => trivial
      | success found =>
          simp only
          split
          · trivial
          split
          · trivial
          rw [Task.bind_assoc]
          exact discreet_deleteDocument (write token)

end

end Tgdex.Items
