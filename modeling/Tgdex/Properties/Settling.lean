import Tgdex.Elastic.Client
import Tgdex.Properties.Answers

namespace Tgdex.Properties

open Tgdex.Data Tgdex.Java Tgdex.Effects Tgdex.Elastic Tgdex.Query Tgdex.Items

/-! # How the futures of the store settle -/

variable {α β : Type}

abbrev Exchange : Type := Sigma Client.Outcome

def ReportsError : Exchange → Prop
  | ⟨_, .error _⟩ => True
  | ⟨_, .ok _⟩ => False

/-- The future is settled, with a failure if the client reported an error. -/
def SettlesProperly (exchanges : List Exchange) (settled : Settled α) : Prop :=
  settled ≠ .pending ∧ ((∃ exchange ∈ exchanges, ReportsError exchange) → ∃ cause, settled = .failure cause)

/-- In every run the future settles properly exactly when the outcomes are fine. -/
def ProperWhen (Fine : Exchange → Prop) (future : Client.Future α) : Prop :=
  ∀ exchanges settled, future.Trace exchanges settled →
    (SettlesProperly exchanges settled ↔ ∀ exchange ∈ exchanges, Fine exchange)

section

variable {Fine : Exchange → Prop}

theorem properWhen_done {settled : Settled α} (ended : settled ≠ .pending) :
    ProperWhen Fine (.done settled : Client.Future α) := by
  intro exchanges other traced
  obtain ⟨rfl, rfl⟩ := traced
  simp [SettlesProperly, ended]

theorem settlesProperly_ok {request : Client.Request} {response : Client.Response request} {settled : Settled α} :
    SettlesProperly [⟨request, .ok response⟩] settled ↔ settled ≠ .pending := by
  simp [SettlesProperly, ReportsError]

theorem settlesProperly_error {request : Client.Request} {reason : String} {settled : Settled α} :
    SettlesProperly [⟨request, .error reason⟩] settled ↔ ∃ cause, settled = .failure cause := by
  cases settled <;> simp [SettlesProperly, ReportsError]

/-- One request: its callback decides. -/
theorem properWhen_whenComplete {request : Client.Request} {callback : Client.Outcome request → Settled α}
    (failed : ∀ reason, Fine ⟨request, .error reason⟩ ↔ ∃ cause, callback (.error reason) = .failure cause)
    (answered : ∀ response, Fine ⟨request, .ok response⟩ ↔ callback (.ok response) ≠ .pending) :
    ProperWhen Fine (Client.whenComplete request callback) := by
  intro exchanges settled traced
  obtain ⟨outcome, _, rest, rfl, rfl, rfl⟩ := traced
  rw [List.forall_mem_singleton]
  cases outcome with
  | error reason => rw [settlesProperly_error, failed reason]
  | ok response => rw [settlesProperly_ok, answered response]

theorem properWhen_orFailed {attempt : Except Throwable (Client.Future α)}
    (each : ∀ future, attempt = .ok future → ProperWhen Fine future) : ProperWhen Fine (Client.orFailed attempt) := by
  cases attempt with
  | error cause => exact properWhen_done (by simp)
  | ok future => exact each future rfl

/-- A step that succeeds has met no error, so the rest decides. -/
theorem properWhen_compose {first : Client.Future β} {next : Client.Future α} (before : ProperWhen Fine first)
    (quiet : ∀ exchanges value, first.Trace exchanges (.success value) → ∀ exchange ∈ exchanges, ¬ReportsError exchange)
    (after : ProperWhen Fine next) : ProperWhen Fine (Client.compose first next) := by
  intro exchanges settled traced
  obtain ⟨done, rest, between, rfl, started, goes⟩ := Task.trace_bind.mp traced
  have here := before done between started
  cases between with
  | pending =>
      obtain ⟨rfl, rfl⟩ := goes
      simpa [SettlesProperly] using here
  | failure cause =>
      obtain ⟨rfl, rfl⟩ := goes
      simpa [SettlesProperly] using here
  | success value =>
      have none := quiet done value started
      have fine : ∀ exchange ∈ done, Fine exchange := here.mp ⟨by simp, fun shown => by
        obtain ⟨exchange, member, error⟩ := shown
        exact absurd error (none exchange member)⟩
      have errors : (∃ exchange ∈ done ++ rest, ReportsError exchange) ↔ ∃ exchange ∈ rest, ReportsError exchange := by
        refine ⟨fun shown => ?_, fun shown => ?_⟩
        · obtain ⟨exchange, member, error⟩ := shown
          rcases List.mem_append.mp member with early | late
          · exact absurd error (none exchange early)
          · exact ⟨exchange, late, error⟩
        · obtain ⟨exchange, member, error⟩ := shown
          exact ⟨exchange, List.mem_append_right _ member, error⟩
      have there : SettlesProperly (done ++ rest) settled ↔ SettlesProperly rest settled := by
        simp only [SettlesProperly, errors]
      rw [there, after rest settled goes, List.forall_mem_append, and_iff_right fine]

theorem properWhen_check {check : Settled Unit} {next : Client.Future α} (ended : check ≠ .pending)
    (after : ProperWhen Fine next) : ProperWhen Fine (Client.compose (.done check) next) := by
  refine properWhen_compose (properWhen_done ended) ?_ after
  intro exchanges value traced exchange member
  obtain ⟨rfl, -⟩ := traced
  cases member

end

inductive Operation where
  | search (index : Option String) (model : Option QueryModel) (options : String)
  | count (index : Option String) (model : Option QueryModel)
  | getSingleDocument (index : Option String) (model : Option QueryModel)
  | createDocuments (index : Option String) (models : Option (List QueryModel))
  | deleteDocument (index id : Option String)
  | updateDocument (index id : Option String) (model : Option QueryModel)
  | deleteByQuery (index : Option String) (model : Option QueryModel)
  | updateDocumentsByQuery (model : Option Client.ScriptModel) (index : Option String)

abbrev Operation.Result : Operation → Type
  | .search _ _ _ => List ElasticsearchResponse
  | .count _ _ => Nat
  | .getSingleDocument _ _ => ElasticsearchResponse
  | .createDocuments _ _ => List (Option String)
  | _ => Unit

/-- The future that the operation returns, unless it throws at once. -/
def Operation.start (stays : Stays) : (operation : Operation) → Except Throwable (Client.Future operation.Result)
  | .search index model options => Client.search index model options
  | .count index model => Client.count index model
  | .getSingleDocument index model => .ok (Client.getSingleDocument index model)
  | .createDocuments index models => .ok (Client.createDocuments stays index models)
  | .deleteDocument index id => .ok (Client.deleteDocument index id)
  | .updateDocument index id model => .ok (Client.updateDocument stays index id model)
  | .deleteByQuery index model => .ok (Client.deleteByQuery index model)
  | .updateDocumentsByQuery model index => .ok (Client.updateDocumentsByQuery model index)

/-- A response that the lookup of one document can read. -/
def Complete (response : Client.SearchResponse) : Prop :=
  ∃ total, response.total = some total ∧
    (total = 0 ∨ ∃ hit source, response.hits.head? = some hit ∧ hit.source = some source)

/-- The outcomes that the callbacks of the operation are written for. -/
def Operation.Handles : Operation → Exchange → Prop
  | .getSingleDocument _ _, ⟨.search _ _, .ok response⟩ => Complete response
  | .createDocuments _ _, ⟨.bulk _ _, .error _⟩ => False
  | _, _ => True

theorem singleCallback_ended {response : Client.SearchResponse} :
    Complete response ↔ Client.singleCallback (.ok response) ≠ .pending := by
  obtain ⟨total, hits, aggregations⟩ := response
  cases total with
  | none => simp [Complete, Client.singleCallback]
  | some total =>
      cases total with
      | zero => simp [Complete, Client.singleCallback]
      | succ count =>
          cases hits with
          | nil => simp [Complete, Client.singleCallback]
          | cons hit rest =>
              obtain ⟨id, source⟩ := hit
              cases source <;> simp [Complete, Client.singleCallback]

theorem searchCallback_ended (options : String) (response : Client.SearchResponse) :
    Client.searchCallback options (.ok response) ≠ .pending := by
  simp only [Client.searchCallback]
  split <;> simp

theorem plainCallback_ended (message : String) (done : Unit) : Client.plainCallback message (.ok done) ≠ .pending := by
  simp [Client.plainCallback]

theorem validateIndex_ended (index : Option String) : Client.validateIndex index ≠ .pending := by
  simp only [Client.validateIndex]
  split <;> simp

theorem validateQueryModel_ended {Model : Type} (model : Option Model) : Client.validateQueryModel model ≠ .pending := by
  simp only [Client.validateQueryModel]
  split <;> simp

theorem validateDocumentModels_ended (models : Option (List QueryModel)) :
    Client.validateDocumentModels models ≠ .pending := by
  simp only [Client.validateDocumentModels]
  split <;> simp

theorem validateDocumentId_ended (id : Option String) : Elastic.validateId id ≠ .pending := by
  cases id with
  | none => simp [Elastic.validateId]
  | some id =>
      simp only [Elastic.validateId]
      split <;> simp

theorem properWhen_plain {operation : Operation} {request : Client.Request}
    {callback : Client.Outcome request → Settled Unit}
    (handles : ∀ outcome, operation.Handles ⟨request, outcome⟩)
    (failed : ∀ reason, ∃ cause, callback (.error reason) = .failure cause)
    (answered : ∀ response, callback (.ok response) ≠ .pending) :
    ProperWhen operation.Handles (Client.whenComplete request callback) :=
  properWhen_whenComplete (fun reason => iff_of_true (handles _) (failed reason))
    fun response => iff_of_true (handles _) (answered response)

theorem quiet_existsCallback {request : Client.Request} {callback : Client.Outcome request → Settled α}
    (failed : ∀ reason, ∃ cause, callback (.error reason) = .failure cause) (exchanges : List Exchange) (value : α)
    (traced : (Client.whenComplete request callback).Trace exchanges (.success value)) :
    ∀ exchange ∈ exchanges, ¬ReportsError exchange := by
  obtain ⟨outcome, _, rest, rfl, rfl, success⟩ := traced
  rw [List.forall_mem_singleton]
  cases outcome with
  | ok response => exact not_false
  | error reason =>
      obtain ⟨cause, failure⟩ := failed reason
      rw [failure] at success
      cases success

theorem properWhen_start (stays : Stays) (operation : Operation) {future : Client.Future operation.Result}
    (started : operation.start stays = .ok future) : ProperWhen operation.Handles future := by
  cases operation with
  | search index model options =>
      simp only [Operation.start, Client.search, bind_eq_ok, pure, Except.pure, Except.ok.injEq] at started
      obtain ⟨given, -, request, -, rfl⟩ := started
      exact properWhen_whenComplete (fun reason => iff_of_true trivial ⟨_, rfl⟩)
        fun response => iff_of_true trivial (searchCallback_ended options response)
  | count index model =>
      simp only [Operation.start, Client.count, bind_eq_ok, pure, Except.pure, Except.ok.injEq] at started
      obtain ⟨given, -, query, -, rfl⟩ := started
      refine properWhen_whenComplete (fun reason => iff_of_true trivial ⟨_, rfl⟩) fun total => iff_of_true trivial ?_
      simp only [Client.countCallback]
      split <;> simp
  | getSingleDocument index model =>
      cases started
      refine properWhen_check (validateIndex_ended index) (properWhen_orFailed fun future built => ?_)
      simp only [Client.performSingleSearch, bind_eq_ok, pure, Except.pure, Except.ok.injEq] at built
      obtain ⟨given, -, query, -, rfl⟩ := built
      exact properWhen_whenComplete (fun reason => iff_of_true trivial ⟨_, rfl⟩) fun response => singleCallback_ended
  | createDocuments index models =>
      cases started
      refine properWhen_check (validateIndex_ended index) (properWhen_check (validateDocumentModels_ended models) ?_)
      refine properWhen_orFailed fun future built => ?_
      simp only [Client.executeBulkIndex, bind_eq_ok, pure, Except.pure, Except.ok.injEq] at built
      obtain ⟨documents, -, rfl⟩ := built
      refine properWhen_whenComplete (fun reason => ?_) fun response => iff_of_true trivial ?_
      · simp [Operation.Handles, Client.bulkCallback, Except.toOption]
      · simp only [Client.bulkCallback, Except.toOption]
        split <;> simp
  | deleteDocument index id =>
      cases started
      refine properWhen_check (validateIndex_ended index) (properWhen_check (validateDocumentId_ended id) ?_)
      refine properWhen_plain (fun outcome => trivial) (fun reason => ⟨_, rfl⟩) fun result => ?_
      simp only [Client.deleteCallback]
      split <;> simp
  | updateDocument index id model =>
      cases started
      refine properWhen_check (validateIndex_ended index) (properWhen_check (validateDocumentId_ended id) ?_)
      refine properWhen_check (validateQueryModel_ended model) ?_
      refine properWhen_compose ?_ (quiet_existsCallback fun reason => ⟨_, rfl⟩) ?_
      · refine properWhen_plain (fun outcome => trivial) (fun reason => ⟨_, rfl⟩) fun value => ?_
        simp only [Client.existsCallback]
        split <;> simp
      · refine properWhen_orFailed fun future built => ?_
        simp only [Client.executeUpdate, bind_eq_ok, pure, Except.pure, Except.ok.injEq] at built
        obtain ⟨given, -, document, -, rfl⟩ := built
        exact properWhen_plain (fun outcome => trivial) (fun reason => ⟨_, rfl⟩) (plainCallback_ended _)
  | deleteByQuery index model =>
      cases started
      refine properWhen_check (validateIndex_ended index) (properWhen_check (validateQueryModel_ended model) ?_)
      refine properWhen_orFailed fun future built => ?_
      simp only [Client.executeDeleteByQuery, bind_eq_ok, pure, Except.pure, Except.ok.injEq] at built
      obtain ⟨given, -, query, -, rfl⟩ := built
      exact properWhen_plain (fun outcome => trivial) (fun reason => ⟨_, rfl⟩) (plainCallback_ended _)
  | updateDocumentsByQuery model index =>
      cases started
      refine properWhen_check (validateIndex_ended index) (properWhen_check (validateQueryModel_ended model) ?_)
      refine properWhen_orFailed fun future built => ?_
      simp only [Client.executeUpdateByQuery, bind_eq_ok, pure, Except.pure, Except.ok.injEq] at built
      obtain ⟨given, -, query, -, script, -, rfl⟩ := built
      exact properWhen_plain (fun outcome => trivial) (fun reason => ⟨_, rfl⟩) (plainCallback_ended _)

theorem settles_deleteItem (id : String) : (deleteItem id).Settles := by
  simp only [deleteItem]
  split
  · exact Future.settles_failed _
  · refine Future.settles_compose (Future.settles_proxied _) fun found => ?_
    obtain ⟨result, statics⟩ := found
    dsimp only
    split
    · exact Future.settles_failed _
    · split
      · exact Future.settles_failed _
      · intro ended ends
        obtain ⟨settled, reached, done⟩ := Task.ends_bind.mp ends
        have same : deleteResult settled = ended := done
        rw [← same]
        cases settled with
        | success done => simp [deleteResult]
        | failure cause => simp [deleteResult]
        | pending => exact absurd rfl (Future.settles_proxied _ .pending reached)

/-- A get of an item whose lookup ends with `found`. -/
def GetsItem (config : Config) (id : String) (subId : Option String)
    (found : Settled (ElasticsearchResponse × Statics)) (ended : Settled ItemResponse) : Prop :=
  (getSingleDocument ((getItemQueryModel id).queries.getD {})).Ends found ∧
    ended = getItemResult config.unicode subId found

theorem getItem_ends_iff {config : Config} {id : String} {subId : Option String} {ended : Settled ItemResponse} :
    (getItem config id subId).Ends ended ↔ ∃ found, GetsItem config id subId found ended := by
  refine Task.ends_bind.trans (exists_congr fun found => and_congr_right fun _ => ?_)
  exact eq_comm

/-- A private document can be compared with the caller. -/
def OwnerReadable (unicode : Unicode) (subId : Option String) (source : JsonObject) : Prop :=
  (source.getString "accessPolicy").any (equalsIgnoreCase unicode "private") = true →
    subId = some "" ∨ ∃ sub owner, subId = some sub ∧ source.getString "ownerUserId" = some owner

/-- Nothing is counted, or there is a document that the ownership check can read. -/
def ItemReadable (unicode : Unicode) (subId : Option String) : Settled (ElasticsearchResponse × Statics) → Prop
  | .success (response, statics) =>
      statics.totalHits = 0 ∨ ∃ source, response.source = some source ∧ OwnerReadable unicode subId source
  | _ => True

theorem exists_ownershipCheck_iff {unicode : Unicode} {subId : Option String} {source : Option JsonObject} :
    (∃ owned, ownershipCheck unicode source subId = .ok owned) ↔
      ∃ given, source = some given ∧ OwnerReadable unicode subId given := by
  cases source with
  | none => simp [ownershipCheck, nonNull, bind, Except.bind]
  | some given =>
      simp only [Option.some.injEq, exists_eq_left', OwnerReadable, ownershipCheck, nonNull, bind, Except.bind]
      cases (given.getString "accessPolicy").any (equalsIgnoreCase unicode "private") with
      | false => simp [pure, Except.pure]
      | true =>
          cases subId with
          | none => simp
          | some sub =>
              by_cases empty : sub = ""
              · simp [empty, pure, Except.pure]
              · have filled : sub.isEmpty = false := by simpa [String.isEmpty_iff] using empty
                cases given.getString "ownerUserId" <;> simp [empty, filled, pure, Except.pure]

theorem getItem_settles_iff {config : Config} {id : String} {subId : Option String}
    {found : Settled (ElasticsearchResponse × Statics)} {ended : Settled ItemResponse}
    (gets : GetsItem config id subId found ended) :
    ended ≠ .pending ↔ ItemReadable config.unicode subId found := by
  obtain ⟨reached, rfl⟩ := gets
  cases found with
  | pending => exact absurd rfl (Future.settles_proxied _ .pending reached)
  | failure cause => simp [getItemResult, ItemReadable]
  | success answer =>
      obtain ⟨response, statics⟩ := answer
      simp only [getItemResult, ItemReadable, ← exists_ownershipCheck_iff]
      by_cases none : statics.totalHits = 0
      · simp [none]
      · simp only [none, if_false, false_or]
        cases ownershipCheck config.unicode response.source subId with
        | error cause => simp
        | ok owned => cases owned <;> simp

/-- A store operation settles, and fails with the client, exactly when a bulk
request is answered at all and the response to a lookup is complete.  Creates,
updates and deletes of items always settle; a get does exactly when the
ownership check can read what was found. -/
theorem store_futures_settle_iff (stays : Stays) (operation : Operation) (future : Client.Future operation.Result)
    (exchanges : List Exchange) (settled : Settled operation.Result)
    (started : operation.start stays = .ok future) (traced : future.Trace exchanges settled) :
    (SettlesProperly exchanges settled ↔ ∀ exchange ∈ exchanges, operation.Handles exchange) ∧
    (∀ config item, (createItem config item).Settles) ∧
    (∀ config item update, updateItem config item = .ok update → update.Settles) ∧
    (∀ id, (deleteItem id).Settles) ∧
    (∀ config id subId ended, (getItem config id subId).Ends ended ↔ ∃ found, GetsItem config id subId found ended) ∧
    ∀ config id subId found ended, GetsItem config id subId found ended →
      (ended ≠ .pending ↔ ItemReadable config.unicode subId found) := by
  refine ⟨?_, ?_, ?_, settles_deleteItem, fun config id subId ended => getItem_ends_iff, ?_⟩
  · exact properWhen_start stays operation started exchanges settled traced
  · exact fun config item => settles_createItem item
  · exact fun config item update updates => settles_updateItem updates
  · exact fun config id subId found ended gets => getItem_settles_iff gets

def wheatDocument : JsonObject := ⟨[("id", .str "wheat")]⟩

def storesWheat : Operation := .createDocuments (some "catalogue") (some [Client.documentModel wheatDocument])

def wheatRequest : Client.Request := .bulk "catalogue" [(some "wheat", wheatDocument)]

theorem wheat_trace (outcome : Client.Outcome wheatRequest) :
    ∃ future, storesWheat.start .nowhere = .ok future ∧ future.Trace [⟨wheatRequest, outcome⟩] (Client.bulkCallback outcome) :=
  ⟨_, rfl, outcome, (), [], rfl, rfl, rfl⟩

theorem store_futures_settle_sat :
    SettlesProperly [⟨wheatRequest, .ok ⟨false, [some "wheat"]⟩⟩] (.success [some "wheat"]) := by
  obtain ⟨future, started, traced⟩ := wheat_trace (.ok ⟨false, [some "wheat"]⟩)
  refine (store_futures_settle_iff .nowhere storesWheat future _ _ started traced).1.mpr ?_
  rw [List.forall_mem_singleton]
  trivial

/-- When the connection is lost during the write, the future is never settled. -/
theorem lost_bulk_never_settles :
    ∃ future, storesWheat.start .nowhere = .ok future ∧
      future.Trace [⟨wheatRequest, .error "connection closed"⟩] .pending ∧
      ¬SettlesProperly [⟨wheatRequest, .error "connection closed"⟩] (.pending : Settled (List (Option String))) := by
  obtain ⟨future, started, traced⟩ := wheat_trace (.error "connection closed")
  exact ⟨future, started, traced, fun proper => proper.1 rfl⟩

end Tgdex.Properties
