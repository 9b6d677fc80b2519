import Tgdex.Properties.ItemTypes

namespace Tgdex.Properties

open Tgdex.Data Tgdex.Java Tgdex.Effects Tgdex.Elastic Tgdex.Query Tgdex.Items

/-! # The creation time of an item -/

variable {engine : Engine} {config : Config} {caller : Caller} {method : Method} {body : Option JsonObject}
  {moment : Moment} {store : Index}

/-- The creation times of a run so far. -/
abbrev Ledger : Type := String → Option String

def stampOf : Request → Option String
  | .item (.post _ _ moment) => some moment.itemCreatedAt
  | _ => none

/-- A request creates the documents that it leaves under ids that had none. -/
def Ledger.record (ledger : Ledger) (request : Request) (before after : Index) : Ledger := fun id =>
  if id ∈ before then ledger id else if id ∈ after then stampOf request else none

def creationTimes (server : Server) (state : Server.State) (ledger : Ledger) : List (Request × (Nat → Choice)) → Ledger
  | [] => ledger
  | (request, choices) :: rest =>
      let after := (server.serve state request choices).2
      creationTimes server after (ledger.record request state.store after.store) rest

/-- Every document has the time at which it was created. -/
def Stamped (ledger : Ledger) (store : Index) : Prop :=
  ∀ id document, store.lookup id = some document →
    ∃ stamp, ledger id = some stamp ∧ document.get? "itemCreatedAt" = some (.str stamp)

def CreationTimesFixed (server : Server) (requests : List (Request × (Nat → Choice))) : Prop :=
  Stamped (creationTimes server Server.initial (fun _ => none) requests) (server.serveAll Server.initial requests).store

theorem classes_read_created :
    ∀ readers ∈ itemClasses,
      readers.find? (fun reader => reader.key == "itemCreatedAt") = some (.text "itemCreatedAt") := by
  decide

/-- Every item that is submitted, for a create or an update, carries the time of its request. -/
theorem created_of_request {submission : Submission config caller method body moment}
    {settled : Settled (ElasticsearchResponse × Statics)} {request : JsonObject} {item : Item}
    (success : submission.validated settled = .success request) (parsed : parse request = .ok item) :
    (config.wire.written item.toJson).get? "itemCreatedAt" = some (.str moment.itemCreatedAt) := by
  obtain ⟨readers, known, read⟩ := class_of_parse parsed
  have stamped : submission.document.get? "itemCreatedAt" = some (.str moment.itemCreatedAt) :=
    JsonObject.get?_put_self _ _ _
  have requested : request.getString "itemCreatedAt" = some moment.itemCreatedAt :=
    JsonObject.getString_of_get? ((submission.get?_request success (by decide)).trans stamped)
  refine config.wire.written_text ?_ moment.stamped
  rw [(toJson_text read (classes_read_created readers known)).1, requested]
  rfl

theorem created_of_update (update : Update engine config caller body moment store) :
    (update.stored.mergeDeep (config.wire.written update.item.toJson)).get? "itemCreatedAt" =
      some (.str moment.itemCreatedAt) :=
  JsonObject.get?_mergeDeep_scalar _ (created_of_request update.valid update.parsed) rfl

/-- An update that is let through comes in the second in which its item was created. -/
def KeepsCreationTime (server : Server) (state : Server.State) : Request → Prop
  | .item (.put caller body moment) =>
      ∀ update : Update server.engine server.config caller body moment state.store,
        update.stored.get? "itemCreatedAt" = some (.str moment.itemCreatedAt)
  | _ => True

theorem mem_of_lookup {id : String} {document : JsonObject} (stored : store.lookup id = some document) : id ∈ store :=
  AList.lookup_isSome.mp (by rw [stored]; rfl)

theorem Stamped.unchanged {ledger : Ledger} (stamped : Stamped ledger store) (request : Request) :
    Stamped (ledger.record request store store) store := by
  intro id document stored
  obtain ⟨stamp, entered, created⟩ := stamped id document stored
  exact ⟨stamp, by rw [Ledger.record, if_pos (mem_of_lookup stored), entered], created⟩

theorem Stamped.erase {ledger : Ledger} (stamped : Stamped ledger store) (request : Request) (id : String) :
    Stamped (ledger.record request store (store.erase id)) (store.erase id) := by
  intro other document stored
  have before : store.lookup other = some document := by
    rw [lookup_erase] at stored
    split at stored
    · cases stored
    · exact stored
  obtain ⟨stamp, entered, created⟩ := stamped other document before
  exact ⟨stamp, by rw [Ledger.record, if_pos (mem_of_lookup before), entered], created⟩

/-- The document of the id carries what the ledger then says of the id. -/
theorem Stamped.insert {ledger : Ledger} (stamped : Stamped ledger store) {request : Request} {id stamp : String}
    {document : JsonObject} (created : document.get? "itemCreatedAt" = some (.str stamp))
    (entered : ledger.record request store (store.insert id document) id = some stamp) :
    Stamped (ledger.record request store (store.insert id document)) (store.insert id document) := by
  intro other found stored
  by_cases here : other = id
  · subst here
    rw [AList.lookup_insert] at stored
    cases stored
    exact ⟨stamp, entered, created⟩
  · rw [AList.lookup_insert_ne here] at stored
    obtain ⟨stamp, entered, created⟩ := stamped other found stored
    exact ⟨stamp, by rw [Ledger.record, if_pos (mem_of_lookup stored), entered], created⟩

theorem stamped_creation {ledger : Ledger} (stamped : Stamped ledger store) (valid : ValidIds store)
    (creation : Creation engine config caller body moment store) :
    Stamped (ledger.record (.item (.post caller body moment)) store creation.after) creation.after := by
  have absent : creation.id ∉ store := fun present => hit_of_mem valid.indexed present creation.fresh
  refine stamped.insert (created_of_request creation.valid creation.parsed) ?_
  rw [Ledger.record, if_neg absent, if_pos (AList.mem_insert store |>.mpr (.inl rfl))]
  rfl

theorem stamped_update {ledger : Ledger} (stamped : Stamped ledger store)
    (update : Update engine config caller body moment store)
    (keeps : update.stored.get? "itemCreatedAt" = some (.str moment.itemCreatedAt)) :
    Stamped (ledger.record (.item (.put caller body moment)) store update.after) update.after := by
  obtain ⟨stamp, entered, created⟩ := stamped update.id update.stored update.present
  have same : stamp = moment.itemCreatedAt := Json.str.inj (Option.some.inj (created.symm.trans keeps))
  subst same
  refine stamped.insert (created_of_update update) ?_
  rw [Ledger.record, if_pos (mem_of_lookup update.present), entered]

theorem ensures_stamped (server : Server) (ledger : Ledger) (state : Server.State) (request : Request)
    (keeps : KeepsCreationTime server state request) (valid : ValidIds state.store)
    (stamped : Stamped ledger state.store) :
    (request.handler server.config).Ensures server.engine.backend state fun _ after =>
      Stamped (ledger.record request state.store after.store) after.store := by
  have unchanged := stamped.unchanged
  cases request using Request.byWrite with
  | reads request reads =>
      refine (ensures_of_onlyReads reads state).imp fun _ after same => ?_
      rw [same]
      exact unchanged _
  | post caller body moment =>
      exact ensures_post (fun _ _ _ => unchanged _) fun creation _ => stamped_creation stamped valid creation
  | put caller body moment =>
      exact ensures_put (fun _ _ _ => unchanged _) fun update _ => stamped_update stamped update (keeps update)
  | delete caller id =>
      exact ensures_deleteRoute (fun _ _ _ => unchanged _) fun _ hit _ _ _ _ _ => stamped.erase _ hit.id

theorem stamped_of_run (server : Server) {state : Server.State} {requests : List (Request × (Nat → Choice))}
    (keeps : server.Meets (KeepsCreationTime server) state requests) {ledger : Ledger} (valid : ValidIds state.store)
    (stamped : Stamped ledger state.store) :
    Stamped (creationTimes server state ledger requests) (server.serveAll state requests).store := by
  induction requests generalizing state ledger with
  | nil => exact stamped
  | cons served rest ih =>
      obtain ⟨request, choices⟩ := served
      have validAfter : ValidIds (server.serve state request choices).2.store :=
        Task.ensures_iff_run.mp (ensures_validIds request valid) choices
      have stampedAfter := Task.ensures_iff_run.mp (ensures_stamped server ledger state request keeps.1 valid stamped)
        choices
      exact ih keeps.2 validAfter stampedAfter

/-- In a run whose updates come in the second in which their items were created,
every item keeps the creation time of the request that created it. -/
theorem creation_time_of_run (server : Server) (requests : List (Request × (Nat → Choice)))
    (keeps : server.Meets (KeepsCreationTime server) Server.initial requests) : CreationTimesFixed server requests := by
  refine stamped_of_run server keeps validIds_empty fun id document stored => ?_
  cases stored

def createThen (moment : Moment) : List (Request × (Nat → Choice)) :=
  [(.item (.post (provider "first") (some (modelBody "wheat")) someMoment), fun _ => .plain),
    (.item (.put (provider "first") (some (modelBody "wheat")) moment), fun _ => .plain)]

theorem creation_time_of_run_model : CreationTimesFixed asciiServer (createThen someMoment) := by
  refine creation_time_of_run asciiServer (createThen someMoment) ⟨trivial, fun update => ?_, trivial⟩
  have named : update.id = modelId := by
    have member : update.id ∈ withModel.store.keys := AList.mem_keys.mp (mem_of_lookup update.present)
    rwa [keys_withModel, List.mem_singleton] at member
  have created : (withModel.store.lookup modelId).all (hasText "itemCreatedAt" "now") = true := by decide +kernel
  have stored : withModel.store.lookup modelId = some update.stored := named ▸ update.present
  rw [stored, Option.all_some, hasText_iff] at created
  exact created

def laterMoment : Moment :=
  { someMoment with lastUpdated := "later", itemCreatedAt := "later", stamped := by decide }

theorem later_update_moves_creation : ¬CreationTimesFixed asciiServer (createThen laterMoment) := by
  have facts : ((asciiServer.serveAll Server.initial (createThen laterMoment)).store.lookup modelId).any
        (hasText "itemCreatedAt" "later") = true ∧
      creationTimes asciiServer Server.initial (fun _ => none) (createThen laterMoment) modelId = some "now" := by
    decide +kernel
  obtain ⟨moved, entered⟩ := facts
  obtain ⟨document, stored, later⟩ := (Option.any_eq_true _ _).mp moved
  intro fixed
  obtain ⟨stamp, recorded, created⟩ := fixed modelId document stored
  rw [entered] at recorded
  obtain rfl := Option.some.inj recorded
  rw [hasText_iff, created] at later
  exact absurd (Json.str.inj (Option.some.inj later)) (by decide)

end Tgdex.Properties
