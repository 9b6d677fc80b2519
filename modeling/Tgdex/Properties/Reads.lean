import Tgdex.Properties.Commitment
import Tgdex.Properties.Ownership
import Tgdex.Properties.SearchAccess
import Tgdex.Properties.Selection

namespace Tgdex.Properties

open Tgdex.Data Tgdex.Java Tgdex.Effects Tgdex.Elastic Tgdex.Query Tgdex.Items Tgdex.Search Tgdex.Api

/-! # What a read is answered with

Whatever else is in flight, a read answers with what its own call has found. -/

variable {api : ApiServer} {store : Index} {statics : Statics} {final : ApiServer.Requests}
  {schedule : List (Label HttpRequest Choice)} {request : HttpRequest}

theorem validIds_of_live (valid : ValidIds store)
    (reached : api.live.runs (Pool.initial store statics) schedule = some final) : ValidIds final.store :=
  System.runs_preserves_store (fun _ now => ValidIds now) (wellFormed_route api) (fun _ _ _ _ now => now)
    (fun _ now _ call choice wellFormed carries =>
      carriesIds_of_effect (fun _ uuid => uuid) carries wellFormed (api.server.engine.effect_of_execute call choice now))
    valid reached

/-- A read of an item is refused at once, or it makes one lookup. -/
theorem route_getItem (api : ApiServer) (operation : request.operation = .getItem) :
    (∃ failure, api.route request = .done ⟨FailureHandler.handle failure, false⟩) ∨
      ∃ caller docId, authenticated api.jwtAuth request.operation.security request.authorization = .ok caller ∧
        request.id = some docId ∧
        api.route request = .await (.singleSearch (getLookup docId)) fun reply seen => .done
          ⟨answer (getOutcome (getItemResult api.server.config.unicode (checkedSub caller)
            (Future.delivered (singleResult reply seen)))), false⟩ := by
  rcases api.route_cases request with refused | ⟨caller, passed, -, served⟩
  · exact .inl refused
  simp only [HttpRequest.controller, operation, handleGetItem] at served
  cases named : notBlank request.id with
  | none =>
      rw [named] at served
      exact .inl ⟨_, served⟩
  | some docId =>
      rw [named] at served
      exact .inr ⟨caller, docId, passed, (Option.filter_eq_some_iff.mp named).1, served⟩

/-- Of a private document the check lets only the owner through. -/
theorem owner_of_ownershipCheck {unicode : Unicode} {document : JsonObject} {subId : Option String}
    (passed : ownershipCheck unicode (some document) subId = .ok true) (privately : SaysPrivate unicode document) :
    ∃ subject owner, subId = some subject ∧ subject ≠ "" ∧ document.getString "ownerUserId" = some owner ∧
      equalsIgnoreCase unicode owner subject = true := by
  rw [SaysPrivate] at privately
  simp only [ownershipCheck, privately, if_true, bind_eq_ok, nonNull_eq_ok, Option.some.injEq, exists_eq_left'] at passed
  obtain ⟨subject, given, passed⟩ := passed
  split at passed
  · cases passed
  · rename_i visible
    simp only [bind_eq_ok, nonNull_eq_ok, pure, Except.pure, Except.ok.injEq] at passed
    obtain ⟨owner, owned, same⟩ := passed
    refine ⟨subject, owner, given, ?_, owned, same⟩
    rintro rfl
    exact visible rfl

/-- The documents that an answer lists; an empty list is not sent. -/
def listing (served : Served) : List Json :=
  match served.response.body.get? "results" with
  | some (.arr items) => items
  | _ => []

theorem listing_sendHits (results : List Json) (totalHits : Nat) (pagination : Option JsonObject) :
    listing ⟨answer [sendHits results totalHits pagination], false⟩ = encodedItems .nowhere results := by
  have sent : (answer [sendHits results totalHits pagination]).body.get? "results" =
      Stays.nowhere.entry "results" (.arr results) := by
    simp only [sendHits, send, answer, JsonObject.get?_encoded]
    rfl
  rw [listing, sent]
  cases results with
  | nil => rfl
  | cons first rest => rfl

/-- What a lookup is answered with is stored when it is executed. -/
theorem head_mem_hits {engine : Engine} {query : Elastic.Query} {choice : Choice} {index : Index} {found : SearchAnswer}
    {hit : Hit} (replied : (engine.execute (.singleSearch query) choice index).1 = .ok found)
    (first : found.hits.head? = some hit) : hit ∈ engine.hits (some query) index := by
  cases choice with
  | fails reason => cases replied
  | answers ranking aggregate generatedId =>
      cases replied
      have member := List.mem_of_mem_head? first
      exact (ranking.perm _).mem_iff.mp (List.mem_of_mem_take member)

/-- What a lookup was answered with when its reader is told of a success. -/
theorem found_of_success {unicode : Unicode} {subId : Option String} {reply : Except String SearchAnswer}
    {seen : Statics}
    (success : (answer (getOutcome (getItemResult unicode subId (Future.delivered (singleResult reply seen))))).status =
      200) :
    ∃ found hit, reply = .ok found ∧ found.hits.head? = some hit ∧
      ownershipCheck unicode (some (readSource hit.source)) subId = .ok true ∧
      listing ⟨answer (getOutcome (getItemResult unicode subId (Future.delivered (singleResult reply seen)))), false⟩ =
        [.obj (readSource hit.source).fields] := by
  have failed : ∀ failure, (FailureHandler.handle failure).status ≠ 200 := fun _ =>
    FailureHandler.handle_ne (by decide)
  cases reply with
  | error reason => exact absurd success (failed _)
  | ok found =>
      by_cases none : found.total = 0
      · simp only [singleResult, none, if_true, Future.delivered, getItemResult] at success
        split at success
        · exact absurd success (by decide)
        · exact absurd success (failed _)
      simp only [singleResult, none, if_false] at success ⊢
      cases first : found.hits.head? with
      | none =>
          rw [first] at success
          exact absurd success (failed _)
      | some hit =>
          simp only [first, Future.delivered, getItemResult] at success ⊢
          split at success
          · exact absurd success (by simp [getOutcome, respond, answer])
          rename_i some_
          simp only [some_, if_false]
          cases checked : ownershipCheck unicode (some (readSource hit.source)) subId with
          | error cause =>
              rw [checked] at success
              exact absurd success (failed _)
          | ok passed =>
              cases passed with
              | false =>
                  rw [checked] at success
                  exact absurd success (failed _)
              | true =>
                  refine ⟨found, hit, rfl, first, checked, ?_⟩
                  simp only [getOutcome, some_, if_false, Option.map_some, Option.getD_some, listing_sendHits,
                    encodedItems, encoded_readSource]

/-- A read of an item that succeeds answers with the document that was stored
under the id when its lookup was executed, as it is read.  If it is read as
private, the token of the request was verified and names the owner. -/
theorem get_answers_stored_document (api : ApiServer) (store : Index) (statics : Statics) (valid : ValidIds store)
    (final : ApiServer.Requests) (schedule : List (Label HttpRequest Choice))
    (reached : api.live.runs (Pool.initial store statics) schedule = some final) (id : Nat) (request : HttpRequest)
    (operation : request.operation = .getItem)
    (started : .started id request ∈ api.live.events (Pool.initial store statics) schedule) (served : Served)
    (ended : final.result id = some served) (success : served.response.status = 200) :
    ∃ before choice after moment docId document, schedule = before ++ .execute id choice :: after ∧
      api.live.runs (Pool.initial store statics) before = some moment ∧ request.id = some docId ∧
      moment.store.lookup docId = some document ∧
      listing served = [.obj (readSource document).fields] ∧
      (SaysPrivate api.server.config.unicode (readSource document) → ∃ principal subject owner,
        Verified api.jwtAuth request.authorization principal ∧ principal.getString "sub" = some subject ∧
        (readSource document).getString "ownerUserId" = some owner ∧
        equalsIgnoreCase api.server.config.unicode owner subject = true) := by
  rcases route_getItem api operation with ⟨failure, refused⟩ | ⟨caller, docId, passed, named, single⟩
  · obtain rfl := api.live.result_of_done refused reached started ended
    exact absurd success (FailureHandler.handle_ne (by decide))
  obtain ⟨before, choice, after, moment, seen, split, reachedBefore, rfl⟩ :=
    api.live.moment_of_single single reached started ended
  obtain ⟨found, hit, replied, first, owns, results⟩ := found_of_success success
  have member := head_mem_hits replied first
  obtain ⟨rfl, stored⟩ := (mem_hits_getLookup (validIds_of_live valid reachedBefore)).mp member
  refine ⟨before, choice, after, moment, hit.id, hit.source, split, reachedBefore, named, stored, results,
    fun privately => ?_⟩
  obtain ⟨subject, owner, given, visible, owned, same⟩ := owner_of_ownershipCheck owns privately
  obtain ⟨-, ⟨principal, user, verified⟩ | ⟨user, -, -⟩⟩ := authenticated_cases passed
  · rw [checkedSub, user] at given
    exact ⟨principal, subject, owner, verified, given, owned, same⟩
  · rw [checkedSub, user] at given
    exact absurd (Option.some.inj given).symm visible

def getFrom (token docId : String) : HttpRequest where
  operation := .getItem
  authorization := some ("Bearer " ++ token)
  id := some docId
  moment := someMoment

def createThenRun (later : HttpRequest) : List (Label HttpRequest Choice) :=
  .start 1 later :: .start 0 (postFrom "first" privateApp) :: turnOf 0 ++ turnOf 0 ++ turnOf 0 ++ turnOf 1

theorem get_answers_stored_document_own :
    ∃ served : Served, ∃ moment : ApiServer.Requests, ∃ docId document, served.response.status = 200 ∧
      moment.store.lookup docId = some document ∧
      listing served = [.obj (readSource document).fields] ∧
      ∃ before, asciiApi.live.runs (Pool.initial ∅ {}) before = some moment := by
  have shown : statusAt (createThenRun (getFrom "first" appId)) 1 = some 200 := by decide +kernel
  obtain ⟨final, served, reached, ended, success⟩ := ended_of_status shown
  obtain ⟨before, _, _, moment, docId, document, -, reachedBefore, -, stored, results, -⟩ :=
    get_answers_stored_document asciiApi ∅ {} (fun _ _ present => nomatch present) final _ reached 1
      (getFrom "first" appId) rfl (System.started_mem_events reached List.mem_cons_self) served ended success
  exact ⟨served, moment, docId, document, success, stored, results, before, reachedBefore⟩

/-- Nobody but the owner reads the private app. -/
example : statusAt (createThenRun (getFrom "second" appId)) 1 = some 500 := by decide +kernel

theorem failed_answers (status : Nat) (cause : Throwable) : 400 ≤ (answer [.failed status cause]).status :=
  FailureHandler.failure_handle _

/-- A search is refused at once, or it asks Elasticsearch once. -/
theorem route_search (api : ApiServer) (request : HttpRequest)
    (operation : request.operation = .search ∨ request.operation = .myAssetsSearch) :
    (∃ response, 400 ≤ response.status ∧ api.route request = .done ⟨response, false⟩) ∨
      ∃ caller decoded model sent,
        authenticated api.jwtAuth request.operation.security request.authorization = .ok caller ∧
        build api.server.config.unicode (request.operation == .myAssetsSearch) false
          (request.context api.jwtAuth caller) = .ok decoded ∧
        searchModel api.server.config.unicode decoded = .ok model ∧ searchRequest model .sourceOnly = .ok sent ∧
        api.route request = .await (.search sent .sourceOnly) fun reply seen =>
          .done ⟨answer (searchOutcome decoded (Future.delivered (searchResult .sourceOnly reply seen))), false⟩ := by
  rcases api.route_cases request with ⟨failure, refused⟩ | ⟨caller, passed, -, served⟩
  · exact .inl ⟨_, FailureHandler.failure_handle failure, refused⟩
  have controller : (∃ outcome, 400 ≤ (answer [outcome]).status ∧
        request.controller api.jwtAuth api.server.config caller = .done [outcome]) ∨
      request.controller api.jwtAuth api.server.config caller = answerSearch api.server.config.unicode
        (request.context api.jwtAuth caller) (request.operation == .myAssetsSearch) := by
    rcases operation with is | is
    · refine .inr ?_
      simp only [HttpRequest.controller, is]
      rfl
    · simp only [HttpRequest.controller, is, guarded]
      cases token : checkIfTokenPresent caller with
      | none => exact .inr rfl
      | some outcome =>
          refine .inl ⟨outcome, ?_, rfl⟩
          simp only [checkIfTokenPresent] at token
          split at token
          · cases token
            exact failed_answers _ _
          · cases token
  rcases controller with ⟨outcome, failed, refused⟩ | searches
  · rw [refused] at served
    exact .inl ⟨_, failed, served⟩
  rw [searches] at served
  rcases answerSearch_cases api.server.config.unicode (request.context api.jwtAuth caller)
    (request.operation == .myAssetsSearch) with open_ | ⟨decoded, built, goes⟩
  · rw [open_] at served
    exact .inl ⟨_, FailureHandler.failure_handle _, served⟩
  rw [goes] at served
  simp only [Search.handleSearch, postSearch] at served
  cases made : searchModel api.server.config.unicode decoded with
  | error cause =>
      rw [made] at served
      exact .inl ⟨_, failed_answers _ _, served⟩
  | ok model =>
      simp only [made, search, executeSearch] at served
      cases asked : searchRequest model .sourceOnly with
      | error cause =>
          rw [asked] at served
          exact .inl ⟨_, failed_answers _ _, served⟩
      | ok sent =>
          rw [asked] at served
          exact .inr ⟨caller, decoded, model, sent, passed, built, made, asked, served⟩

/-- A document as a search finds it. -/
def sourceOf (document : JsonObject) : Json := .obj ((document.remove "_summary").remove "_word_vector").fields

/-- A document as a search shows it. -/
def shown (document : JsonObject) : Json := (sourceOf document).encoded .nowhere

theorem results_of_success {decoded : QueryDecoderRequestDTO} {reply : Except String SearchAnswer} {seen : Statics}
    (success : (answer (searchOutcome decoded (Future.delivered (searchResult .sourceOnly reply seen)))).status = 200) :
    ∃ found, reply = .ok found ∧
      listing ⟨answer (searchOutcome decoded (Future.delivered (searchResult .sourceOnly reply seen))), false⟩ =
        found.hits.map fun hit => shown hit.source := by
  have failed : ∀ failure, (FailureHandler.handle failure).status ≠ 200 := fun _ =>
    FailureHandler.handle_ne (by decide)
  cases reply with
  | error reason => exact absurd success (failed _)
  | ok found =>
      refine ⟨found, rfl, ?_⟩
      have settled : searchResult .sourceOnly (.ok found) seen =
          .success (found.hits.map (resultOf .sourceOnly), seen) := rfl
      have sourcesOf : sources (found.hits.map (resultOf .sourceOnly)) =
          found.hits.map fun hit => sourceOf hit.source := by
        simp only [sources, List.map_map]
        rfl
      simp only [settled, Future.delivered, searchOutcome] at success ⊢
      split at success
      · rw [listing_sendHits, sourcesOf, encodedItems_eq_map, List.map_map]
        rfl
      · exact absurd success (failed _)

theorem nodup_hits (engine : Engine) (query : Option Elastic.Query) (index : Index) :
    ((engine.hits query index).map Hit.id).Nodup := by
  rw [Engine.hits, List.map_map]
  exact (index.nodupKeys.sublist List.filter_sublist)

/-- The subject that a request is served for. -/
def ServedFor (api : ApiServer) (request : HttpRequest) (subject : Option String) : Prop :=
  (subject = none ∧ presented request.authorization = none) ∨
    ∃ principal, Verified api.jwtAuth request.authorization principal ∧ subject = api.jwtAuth.subject principal

theorem servedFor_of_authenticated {caller : Caller}
    (passed : authenticated api.jwtAuth request.operation.security request.authorization = .ok caller) :
    ServedFor api request (caller.user.bind api.jwtAuth.subject) := by
  obtain ⟨-, ⟨principal, user, verified⟩ | ⟨user, -, none⟩⟩ := authenticated_cases passed
  · exact .inr ⟨principal, verified, by rw [user, Option.bind_some]⟩
  · exact .inl ⟨by rw [user, Option.bind_none], none⟩

/-- The page that a search is answered with is a part of what its query finds. -/
theorem page_of_search {engine : Engine} {sent : SearchRequest} {choice : Choice} {index : Index}
    {found : SearchAnswer} (whole : sent.includes = none)
    (replied : (engine.execute (.search sent .sourceOnly) choice index).1 = .ok found) :
    found.hits.length ≤ sent.size.toNat ∧ (found.hits.map Hit.id).Nodup ∧
      ∀ hit ∈ found.hits, hit ∈ engine.hits sent.query index := by
  cases choice with
  | fails reason => cases replied
  | answers ranking aggregate generatedId =>
      obtain rfl := Except.ok.inj replied
      have perm := ranking.perm (engine.hits sent.query index)
      simp only [Engine.answer, SearchRequest.page, whole, List.map_id']
      have part := (List.take_sublist sent.size.toNat _).trans
        (List.drop_sublist (sent.from_.getD 0).toNat (ranking.order (engine.hits sent.query index)))
      refine ⟨List.length_take_le _ _, ?_, fun hit member => perm.mem_iff.mp (part.subset member)⟩
      exact ((perm.map Hit.id).nodup_iff.mpr (nodup_hits engine sent.query index)).sublist (part.map Hit.id)

theorem limit_of_getQueryModel {unicode : Unicode} {decoded : QueryDecoderRequestDTO} {model : QueryModel} {size : Int}
    (sized : decoded.size = some size) (ordinary : isParentObjectInfo unicode decoded = false)
    (made : getQueryModel unicode decoded = .ok model) : model.limit = some size := by
  simp only [getQueryModel, ordinary, Bool.false_eq_true, if_false, sized, bind_eq_ok] at made
  obtain ⟨queryMap, -, made⟩ := made
  split at made
  · cases made
  · cases made
    rfl

theorem sent_of_searchRequest {model : QueryModel} {options : Options} {sent : SearchRequest}
    (asked : searchRequest model options = .ok sent) :
    searchQuery model = .ok sent.query ∧ sent.size = parseSize options model ∧ sent.from_ = model.offset := by
  simp only [searchRequest, bind_eq_ok, pure, Except.pure, Except.ok.injEq] at asked
  obtain ⟨_, -, query, queried, rfl⟩ := asked
  exact ⟨queried, rfl, rfl⟩

theorem getQueryModel_of_searchModel {unicode : Unicode} {decoded : QueryDecoderRequestDTO} {model : QueryModel}
    (made : searchModel unicode decoded = .ok model) :
    ∃ plain, getQueryModel unicode decoded = .ok plain ∧ ∃ fields, model = { plain with sortFields := fields } := by
  simp only [searchModel, bind_eq_ok, pure, Except.pure, Except.ok.injEq] at made
  obtain ⟨plain, decoded_, fields, -, rfl⟩ := made
  exact ⟨plain, decoded_, fields, rfl⟩

/-- A search asks for whole documents. -/
theorem includes_of_build {unicode : Unicode} {isAssetSearch isCountApi : Bool} {context : RoutingContext}
    {decoded : QueryDecoderRequestDTO} {model : QueryModel} {options : Options} {sent : SearchRequest}
    (built : build unicode isAssetSearch isCountApi context = .ok decoded)
    (made : searchModel unicode decoded = .ok model) (asked : searchRequest model options = .ok sent) :
    sent.includes = none := by
  obtain ⟨body, from_⟩ := builtFrom_of_build built
  obtain ⟨size, sized⟩ := from_.size
  obtain ⟨plain, decoded_, fields, rfl⟩ := getQueryModel_of_searchModel made
  rw [includes_of_searchRequest asked]
  exact (includeFields_of_size sized (ordinary_of_build built) decoded_ : plain.includeFields = none)

/-- What a search was sent and answered with when its reader is told of a
success. -/
theorem search_of_success (reached : api.live.runs (Pool.initial store statics) schedule = some final) {id : Nat}
    (started : .started id request ∈ api.live.events (Pool.initial store statics) schedule)
    (operation : request.operation = .search ∨ request.operation = .myAssetsSearch) {served : Served}
    (ended : final.result id = some served) (success : served.response.status = 200) :
    ∃ caller decoded model sent before choice after moment found,
      authenticated api.jwtAuth request.operation.security request.authorization = .ok caller ∧
      build api.server.config.unicode (request.operation == .myAssetsSearch) false
        (request.context api.jwtAuth caller) = .ok decoded ∧
      searchModel api.server.config.unicode decoded = .ok model ∧ searchRequest model .sourceOnly = .ok sent ∧
      schedule = before ++ .execute id choice :: after ∧
      api.live.runs (Pool.initial store statics) before = some moment ∧
      (api.server.engine.execute (.search sent .sourceOnly) choice moment.store).1 = .ok found ∧
      listing served = found.hits.map fun hit => shown hit.source := by
  rcases route_search api request operation with
    ⟨response, failed, refused⟩ | ⟨caller, decoded, model, sent, passed, built, made, asked, single⟩
  · obtain rfl := api.live.result_of_done refused reached started ended
    simp only at success
    omega
  obtain ⟨before, choice, after, moment, seen, split, reachedBefore, rfl⟩ :=
    api.live.moment_of_single single reached started ended
  obtain ⟨found, replied, results⟩ := results_of_success success
  exact ⟨caller, decoded, model, sent, before, choice, after, moment, found, passed, built, made, asked, split,
    reachedBefore, replied, results⟩

/-- A search that succeeds shows a page of the documents that were stored and
matched when it was executed, each at most once and none that the access policy
hides from the subject of the token. -/
theorem search_answers_visible_documents (api : ApiServer) (store : Index) (statics : Statics)
    (final : ApiServer.Requests) (schedule : List (Label HttpRequest Choice))
    (reached : api.live.runs (Pool.initial store statics) schedule = some final) (id : Nat) (request : HttpRequest)
    (operation : request.operation = .search ∨ request.operation = .myAssetsSearch)
    (started : .started id request ∈ api.live.events (Pool.initial store statics) schedule) (served : Served)
    (ended : final.result id = some served) (success : served.response.status = 200) :
    ∃ before choice after moment subject decoded model size, ∃ hits : List Hit,
      schedule = before ++ .execute id choice :: after ∧
      api.live.runs (Pool.initial store statics) before = some moment ∧ ServedFor api request subject ∧
      build api.server.config.unicode (request.operation == .myAssetsSearch) false
        ⟨request.body, request.size, request.page, request.sort, subject⟩ = .ok decoded ∧
      decoded.size = some size ∧ searchModel api.server.config.unicode decoded = .ok model ∧
      listing served = hits.map (fun hit => shown hit.source) ∧
      hits.length ≤ size.toNat ∧ (hits.map Hit.id).Nodup ∧
      ∀ hit ∈ hits, moment.store.lookup hit.id = some hit.source ∧ Finds api.server.engine model hit.source ∧
        ¬HiddenFrom api.server.engine hit.source
          (getAccessPolicyRequest (request.operation == .myAssetsSearch) subject) := by
  obtain ⟨caller, decoded, model, sent, before, choice, after, moment, found, passed, built, made, asked, split,
    reachedBefore, replied, results⟩ := search_of_success reached started operation ended success
  obtain ⟨body, from_⟩ := builtFrom_of_build built
  obtain ⟨size, sized⟩ := from_.size
  have ordinary := ordinary_of_build built
  have whole := includes_of_build built made asked
  obtain ⟨plain, decoded_, fields, rfl⟩ := getQueryModel_of_searchModel made
  obtain ⟨queried, limited, -⟩ := sent_of_searchRequest asked
  have limit : sent.size = size := by
    rw [limited]
    change plain.limit.getD defaultSize = size
    rw [limit_of_getQueryModel sized ordinary decoded_, Option.getD_some]
  obtain ⟨short, once, members⟩ := page_of_search whole replied
  refine ⟨before, choice, after, moment, _, decoded, _, size, found.hits, split, reachedBefore,
    servedFor_of_authenticated passed, built, sized, made, results, limit ▸ short, once, fun hit member => ?_⟩
  obtain ⟨stored, matched⟩ := Engine.mem_hits.mp (members hit member)
  have finds : Finds api.server.engine plain hit.source :=
    ⟨sent.query, queried, by cases given : sent.query <;> simp [matched, given]⟩
  obtain ⟨access, given, visible⟩ := not_hidden_of_finds (.inl decoded_) ordinary finds
  obtain rfl := Option.some.inj (from_.access.symm.trans given)
  exact ⟨stored, finds, visible⟩

def searchFrom (token : String) : HttpRequest where
  operation := .search
  authorization := some ("Bearer " ++ token)
  body := some ⟨[("filter", .arr [.str "id"])]⟩
  moment := someMoment

theorem search_answers_visible_documents_own :
    ∃ served : Served, served.response.status = 200 ∧ ∃ moment : ApiServer.Requests, ∃ hits : List Hit,
      listing served = hits.map (fun hit => shown hit.source) ∧
      (hits.map Hit.id).Nodup ∧ (∃ before, asciiApi.live.runs (Pool.initial ∅ {}) before = some moment) ∧
      ∀ hit ∈ hits, moment.store.lookup hit.id = some hit.source := by
  have shown_ : statusAt (createThenRun (searchFrom "first")) 1 = some 200 := by decide +kernel
  obtain ⟨final, served, reached, ended, success⟩ := ended_of_status shown_
  obtain ⟨before, _, _, moment, _, _, _, _, hits, -, reachedBefore, -, -, -, -, results, -, once, found⟩ :=
    search_answers_visible_documents asciiApi ∅ {} final _ reached 1 (searchFrom "first") (.inl rfl)
      (System.started_mem_events reached List.mem_cons_self) served ended success
  exact ⟨served, success, moment, hits, results, once, ⟨before, reachedBefore⟩, fun hit member => (found hit member).1⟩

end Tgdex.Properties
