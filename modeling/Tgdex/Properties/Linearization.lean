import Tgdex.Effects.Linearization
import Tgdex.Properties.Provenance
import Tgdex.Properties.Reads

namespace Tgdex.Properties

open Tgdex.Data Tgdex.Java Tgdex.Effects Tgdex.Elastic Tgdex.Query Tgdex.Items Tgdex.Search Tgdex.Api

/-! # The catalogue as a sequence of actions

However requests interleave, what their clients are told of successes is what
they would be told if each of them had acted in one moment. -/

inductive Action where
  | write (commit : Commit)
  | read (docId : String) (document : JsonObject)
  | list (hits : List Hit)

/-- When an index admits the action, and the index after it. -/
def Action.Acts : Action → Index → Index → Prop
  | .write commit, index, next => commit.Acts index next
  | .read docId document, index, next => index.lookup docId = some document ∧ next = index
  | .list hits, index, next => (∀ hit ∈ hits, index.lookup hit.id = some hit.source) ∧ next = index

/-- What the reply to a call of the request has done or shown.  The lookups in
front of a write are no actions. -/
def actionOf (request : HttpRequest) (call : Call) (reply : Reply call) : Option Action :=
  match request.operation, call, reply with
  | .getItem, .singleSearch _, .ok found =>
      request.id.bind fun docId => found.hits.head?.map fun hit => .read docId hit.source
  | .search, .search _ _, .ok found | .myAssetsSearch, .search _ _, .ok found => some (.list found.hits)
  | .createItem, call, reply | .updateItem, call, reply | .deleteItem, call, reply => (committed call reply).map .write
  | _, _, _ => none

/-- The operations that act on documents; counts and lists of filters read only aggregations. -/
def concernsDocuments : Operation → Bool
  | .count | .listAvailableFilters => false
  | _ => true

/-- What the client is told of an action is right, and of a success it is told only after one. -/
def Told (config : Config) (request : HttpRequest) (action : Option Action) (served : Served) : Prop :=
  match action with
  | some (.write commit) => Shows config served.response.status served.response.body commit
  | some (.read docId document) => request.id = some docId ∧ (served.response.status < 400 →
      listing served = [.obj (readSource document).fields])
  | some (.list hits) => served.response.status < 400 →
      listing served = hits.map fun hit => shown hit.source
  | none => concernsDocuments request.operation = true → 400 ≤ served.response.status

variable {api : ApiServer} {request : HttpRequest}

/-- The calls of a request, with what reads ask for. -/
def Asks (api : ApiServer) (request : HttpRequest) (call : Call) : Prop :=
  request.Permits api call ∧
    match request.operation with
    | .getItem => ∃ docId, request.id = some docId ∧ call = .singleSearch (getLookup docId)
    | .search | .myAssetsSearch => ∃ sent, sent.includes = none ∧ call = .search sent .sourceOnly
    | _ => True

theorem asks_of_single {call : Call} {answer : Reply call → Statics → Served}
    (single : api.route request = .await call fun reply seen => .done (answer reply seen))
    (asks : request.Permits api call → Asks api request call) : (api.route request).AllCalls (Asks api request) := by
  have permitted := permits_route api request
  rw [single] at permitted ⊢
  exact ⟨asks permitted.1, fun _ _ => trivial⟩

theorem asks_route (api : ApiServer) (request : HttpRequest) : (api.route request).AllCalls (Asks api request) := by
  have searches : request.operation = .search ∨ request.operation = .myAssetsSearch →
      (api.route request).AllCalls (Asks api request) := by
    intro operation
    rcases route_search api request operation with
      ⟨response, -, refused⟩ | ⟨caller, decoded, model, sent, -, built, made, asked, single⟩
    · rw [refused]
      trivial
    · refine asks_of_single single fun permitted => ⟨permitted, ?_⟩
      rcases operation with is | is <;> rw [is] <;> exact ⟨sent, includes_of_build built made asked, rfl⟩
  cases operation : request.operation with
  | search => exact searches (.inl operation)
  | myAssetsSearch => exact searches (.inr operation)
  | getItem =>
      rcases route_getItem api operation with ⟨failure, refused⟩ | ⟨caller, docId, -, named, single⟩
      · rw [refused]
        trivial
      · refine asks_of_single single fun permitted => ⟨permitted, ?_⟩
        rw [operation]
        exact ⟨docId, named, rfl⟩
  | createItem | updateItem | deleteItem | count | listAvailableFilters =>
      refine (permits_route api request).imp fun call resume permitted => ⟨permitted, ?_⟩
      rw [operation]
      trivial

/-- A call whose reply reports no change leaves the index as it is. -/
theorem unchanged_of_committed {engine : Engine} {call : Call} {choice : Choice} {index : Index}
    (wellFormed : WellFormed call) (none : committed call (engine.execute call choice index).1 = none) :
    (engine.execute call choice index).2 = index := by
  rw [execute_eq_applied wellFormed, applied, none]
  rfl

theorem unchanged_of_reads {call : Call} {choice : Choice} {index : Index} (permitted : request.Permits api call)
    (reads : request.operation.writes = false) : (api.server.engine.execute call choice index).2 = index := by
  refine unchanged_of_committed (wellFormed_of_permits permitted) ?_
  by_contra changed
  rw [writes_of_committed permitted changed] at reads
  cases reads

theorem acts_of_lookup {engine : Engine} {docId : String} {choice : Choice} {index : Index}
    (operation : request.operation = .getItem) (named : request.id = some docId) (valid : ValidIds index) :
    Does Action.Acts (actionOf request (.singleSearch (getLookup docId))
      (engine.execute (.singleSearch (getLookup docId)) choice index).1) index index := by
  cases replied : (engine.execute (.singleSearch (getLookup docId)) choice index).1 with
  | error reason =>
      simp only [actionOf, operation]
      rfl
  | ok found =>
      simp only [actionOf, operation, named, Option.bind_some]
      cases first : found.hits.head? with
      | none => rfl
      | some hit =>
          obtain ⟨rfl, stored⟩ := (mem_hits_getLookup valid).mp (head_mem_hits replied first)
          exact ⟨stored, rfl⟩

theorem acts_of_search {engine : Engine} {sent : SearchRequest} {choice : Choice} {index : Index}
    (whole : sent.includes = none) (operation : request.operation = .search ∨ request.operation = .myAssetsSearch) :
    Does Action.Acts (actionOf request (.search sent .sourceOnly)
      (engine.execute (.search sent .sourceOnly) choice index).1) index index := by
  cases replied : (engine.execute (.search sent .sourceOnly) choice index).1 with
  | error reason => rcases operation with is | is <;> simp only [actionOf, is] <;> rfl
  | ok found =>
      have stored : Does Action.Acts (some (.list found.hits)) index index :=
        ⟨fun hit member => (Engine.mem_hits.mp ((page_of_search whole replied).2.2 hit member)).1, rfl⟩
      rcases operation with is | is <;> simpa only [actionOf, is] using stored

theorem acts_of_asks {call : Call} {choice : Choice} {index : Index} (asks : Asks api request call)
    (valid : ValidIds index) :
    Does Action.Acts (actionOf request call (api.server.engine.execute call choice index).1) index
      (api.server.engine.execute call choice index).2 := by
  obtain ⟨permitted, asks⟩ := asks
  have reads : request.operation.writes = false →
      Does Action.Acts (actionOf request call (api.server.engine.execute call choice index).1) index index →
      Does Action.Acts (actionOf request call (api.server.engine.execute call choice index).1) index
        (api.server.engine.execute call choice index).2 := by
    intro reads does
    rwa [unchanged_of_reads permitted reads]
  have writes : actionOf request call (api.server.engine.execute call choice index).1 =
        (committed call (api.server.engine.execute call choice index).1).map Action.write →
      Does Action.Acts (actionOf request call (api.server.engine.execute call choice index).1) index
        (api.server.engine.execute call choice index).2 := by
    intro same
    rw [same]
    cases made : committed call (api.server.engine.execute call choice index).1 with
    | none => exact unchanged_of_committed (wellFormed_of_permits permitted) made
    | some commit => exact acts_of_committed made
  cases operation : request.operation with
  | createItem | updateItem | deleteItem => exact writes (by simp only [actionOf, operation])
  | count | listAvailableFilters => exact reads (by rw [operation]; rfl) (by simp only [actionOf, operation]; rfl)
  | getItem =>
      rw [operation] at asks
      obtain ⟨docId, named, rfl⟩ := asks
      exact reads (by rw [operation]; rfl) (acts_of_lookup operation named valid)
  | search =>
      rw [operation] at asks
      obtain ⟨sent, whole, rfl⟩ := asks
      exact reads (by rw [operation]; rfl) (acts_of_search whole (.inl operation))
  | myAssetsSearch =>
      rw [operation] at asks
      obtain ⟨sent, whole, rfl⟩ := asks
      exact reads (by rw [operation]; rfl) (acts_of_search whole (.inr operation))

theorem success_of_getOutcome {settled : Settled ItemResponse} (success : (answer (getOutcome settled)).status < 400) :
    (answer (getOutcome settled)).status = 200 := by
  have failed : ∀ failure, ¬(FailureHandler.handle failure).status < 400 := fun failure =>
    Nat.not_lt.mpr (FailureHandler.failure_handle failure)
  cases settled with
  | failure cause => exact absurd success (failed _)
  | pending => exact absurd success (failed _)
  | success response =>
      simp only [getOutcome] at success ⊢
      split at success
      · exact absurd success (by simp [respond, answer])
      · rename_i found
        simp only [found, if_false]
        rfl

theorem success_of_searchOutcome {decoded : QueryDecoderRequestDTO}
    {settled : Settled (List ElasticsearchResponse × Statics)}
    (success : (answer (searchOutcome decoded settled)).status < 400) :
    (answer (searchOutcome decoded settled)).status = 200 := by
  have failed : ∀ failure, ¬(FailureHandler.handle failure).status < 400 := fun failure =>
    Nat.not_lt.mpr (FailureHandler.failure_handle failure)
  cases settled with
  | failure cause => exact absurd success (failed _)
  | pending => exact absurd success (failed _)
  | success found =>
      simp only [searchOutcome] at success ⊢
      split at success
      · rfl
      · exact absurd success (failed _)

theorem told_of_refusal {config : Config} {served : Served} (failed : 400 ≤ served.response.status) :
    Told config request none served := fun _ => failed

theorem told_read {unicode : Unicode} {config : Config} {subId : Option String} {docId : String} {query : Elastic.Query}
    {reply : Reply (.singleSearch query)} {seen : Statics} (operation : request.operation = .getItem)
    (named : request.id = some docId) :
    Told config request (actionOf request (.singleSearch query) reply)
      ⟨answer (getOutcome (getItemResult unicode subId (Future.delivered (singleResult reply seen)))), false⟩ := by
  by_cases success :
      (answer (getOutcome (getItemResult unicode subId (Future.delivered (singleResult reply seen))))).status < 400
  · obtain ⟨found, hit, rfl, first, -, results⟩ := found_of_success (success_of_getOutcome success)
    simp only [actionOf, operation, named, Option.bind_some, first, Option.map_some]
    exact ⟨named, fun _ => results⟩
  · cases reply with
    | error reason =>
        simp only [actionOf, operation]
        exact told_of_refusal (Nat.not_lt.mp success)
    | ok found =>
        simp only [actionOf, operation, named, Option.bind_some]
        cases found.hits.head? with
        | none => exact told_of_refusal (Nat.not_lt.mp success)
        | some hit => exact ⟨named, fun shown => absurd shown success⟩

theorem told_list {config : Config} {decoded : QueryDecoderRequestDTO} {sent : SearchRequest}
    {reply : Reply (.search sent .sourceOnly)} {seen : Statics}
    (operation : request.operation = .search ∨ request.operation = .myAssetsSearch) :
    Told config request (actionOf request (.search sent .sourceOnly) reply)
      ⟨answer (searchOutcome decoded (Future.delivered (searchResult .sourceOnly reply seen))), false⟩ := by
  by_cases success :
      (answer (searchOutcome decoded (Future.delivered (searchResult .sourceOnly reply seen)))).status < 400
  · obtain ⟨found, rfl, results⟩ := results_of_success (success_of_searchOutcome success)
    have told : Told config request (some (.list found.hits)) ⟨answer (searchOutcome decoded
        (Future.delivered (searchResult .sourceOnly (.ok found) seen))), false⟩ := fun _ => results
    rcases operation with is | is <;> simpa only [actionOf, is] using told
  · cases reply with
    | error reason =>
        rcases operation with is | is <;> simpa only [actionOf, is] using told_of_refusal (Nat.not_lt.mp success)
    | ok found =>
        have told : Told config request (some (.list found.hits)) ⟨answer (searchOutcome decoded
            (Future.delivered (searchResult .sourceOnly (.ok found) seen))), false⟩ :=
          fun shown => absurd shown success
        rcases operation with is | is <;> simpa only [actionOf, is] using told

theorem confirming_actions (api : ApiServer) (request : HttpRequest) :
    (api.route request).Confirming (actionOf request) (Told api.server.config request) none := by
  have writes : request.operation.writes = true →
      (∀ call reply, actionOf request call reply = (committed call reply).map Action.write) →
      (api.route request).Confirming (actionOf request) (Told api.server.config request) none := by
    intro writes same
    refine (confirming_route api request).mapChange same fun change served told => ?_
    cases change with
    | some commit => exact told
    | none => exact fun _ => Nat.not_lt.mp fun success => told ⟨writes, success⟩
  have aggregates : concernsDocuments request.operation = false →
      (∀ call reply, actionOf request call reply = none) →
      (api.route request).Confirming (actionOf request) (Told api.server.config request) none := by
    intro others none
    refine Task.confirming_of_allCalls (fun served concerns => ?_) ((permits_route api request).imp fun call _ _ => none call)
    rw [others] at concerns
    cases concerns
  have searches : request.operation = .search ∨ request.operation = .myAssetsSearch →
      (api.route request).Confirming (actionOf request) (Told api.server.config request) none := by
    intro operation
    rcases route_search api request operation with
      ⟨response, failed, refused⟩ | ⟨caller, decoded, model, sent, -, -, -, -, single⟩
    · rw [refused]
      exact told_of_refusal failed
    · rw [single]
      exact fun reply => ⟨fun _ => rfl, fun seen => told_list operation⟩
  cases operation : request.operation with
  | createItem | updateItem | deleteItem =>
      exact writes (by rw [operation]; rfl) fun call reply => by simp only [actionOf, operation]
  | count | listAvailableFilters =>
      exact aggregates (by rw [operation]; rfl) fun call reply => by simp only [actionOf, operation]
  | search => exact searches (.inl operation)
  | myAssetsSearch => exact searches (.inr operation)
  | getItem =>
      rcases route_getItem api operation with ⟨failure, refused⟩ | ⟨caller, docId, -, named, single⟩
      · rw [refused]
        exact told_of_refusal (FailureHandler.failure_handle failure)
      · rw [single]
        exact fun reply => ⟨fun _ => rfl, fun seen => told_read operation named⟩

abbrev ApiServer.actions (api : ApiServer) (store : Index) (statics : Statics)
    (schedule : List (Label HttpRequest Choice)) : List (Nat × Action) :=
  Event.log actionOf (api.live.events (Pool.initial store statics) schedule)

theorem linearization_of_live {store : Index} {statics : Statics} {final : ApiServer.Requests}
    {schedule : List (Label HttpRequest Choice)} (valid : ValidIds store)
    (reached : api.live.runs (Pool.initial store statics) schedule = some final) :
    api.live.Linearization Action.Acts (Told api.server.config) store statics schedule final
      (ApiServer.actions api store statics schedule) :=
  System.linearization_of_runs (asks_route api) (confirming_actions api)
    (fun _ _ _ _ asks now => ⟨validIds_of_execute (wellFormed_of_permits asks.1) now, acts_of_asks asks now⟩) valid
    reached

theorem lookup_of_replays {index final : Index} {actions : List Action} {docId : String}
    (replays : Replays Action.Acts index actions final)
    (others : ∀ commit, .write commit ∈ actions → commit.target ≠ docId) : final.lookup docId = index.lookup docId := by
  induction actions generalizing index with
  | nil =>
      obtain rfl : final = index := replays
      rfl
  | cons action rest ih =>
      obtain ⟨next, acts, onward⟩ := replays
      rw [ih onward fun commit member => others commit (List.mem_cons_of_mem _ member)]
      cases action with
      | read other document => rw [acts.2]
      | list hits => rw [acts.2]
      | write commit =>
          have other := others commit List.mem_cons_self
          cases commit with
          | stored id document =>
              obtain rfl : next = _ := acts
              exact AList.lookup_insert_ne (Ne.symm other)
          | merged id partialDocument =>
              obtain ⟨document, -, rfl⟩ := acts
              exact AList.lookup_insert_ne (Ne.symm other)
          | removed id =>
              obtain ⟨-, rfl⟩ := acts
              exact AList.lookup_erase_ne (Ne.symm other)

theorem committed_of_actionOf {call : Call} {reply : Reply call} {commit : Commit}
    (acts : actionOf request call reply = some (.write commit)) : committed call reply = some commit := by
  simp only [actionOf] at acts
  split at acts
  · simp [Option.bind_eq_some_iff] at acts
  · cases acts
  · cases acts
  · simpa using acts
  · simpa using acts
  · simpa using acts
  · cases acts

section

variable {store : Index} {statics : Statics} {final : ApiServer.Requests} {schedule : List (Label HttpRequest Choice)}
  {id : Nat}

theorem commit_of_action {commit : Commit} (member : (id, .write commit) ∈ ApiServer.actions api store statics schedule) :
    commit ∈ commitsOf id (api.live.events (Pool.initial store statics) schedule) := by
  obtain ⟨request, call, reply, -, called, acts⟩ := Event.mem_filterMap_action?.mp member
  exact mem_commitsOf.mpr ⟨call, reply, called, committed_of_actionOf acts⟩

/-- The action of a request in the log is one of a call that it has made. -/
theorem called_of_action (reached : api.live.runs (Pool.initial store statics) schedule = some final)
    (started : .started id request ∈ api.live.events (Pool.initial store statics) schedule) {action : Action}
    (member : (id, action) ∈ ApiServer.actions api store statics schedule) :
    ∃ call reply, .called id call reply ∈ api.live.events (Pool.initial store statics) schedule ∧
      actionOf request call reply = some action := by
  obtain ⟨other, call, reply, known, called, acts⟩ := Event.mem_filterMap_action?.mp member
  obtain rfl := Option.some.inj (known.symm.trans ((System.explains_of_runs reached).requestOf started))
  exact ⟨call, reply, called, acts⟩

/-- A create that its client was told of is an action of the log. -/
theorem stored_of_success (valid : ValidIds store)
    (reached : api.live.runs (Pool.initial store statics) schedule = some final)
    (started : .started id request ∈ api.live.events (Pool.initial store statics) schedule)
    (operation : request.operation = .createItem) {served : Served} (ended : final.result id = some served)
    (success : served.response.status < 400) :
    ∃ docId item, (ApiServer.actions api store statics schedule).lookup id =
        some (.write (.stored docId (api.server.config.wire.written item))) ∧
      served.response.body.get? "results" = some (.obj (item.encoded api.server.config.held).fields) ∧
      item.get? "id" = some (.str docId) := by
  have told := (linearization_of_live valid reached).told id request served started ended
  cases found : (ApiServer.actions api store statics schedule).lookup id with
  | none =>
      rw [found] at told
      exact absurd success (Nat.not_lt.mpr (told (by rw [operation]; rfl)))
  | some action =>
      rw [found] at told
      obtain ⟨earlier, later, log, -⟩ := List.lookup_eq_some_iff.mp found
      have member : (id, action) ∈ ApiServer.actions api store statics schedule := by simp [log]
      obtain ⟨call, reply, called, acts⟩ := called_of_action reached started member
      simp only [actionOf, operation, Option.map_eq_some_iff] at acts
      obtain ⟨commit, made, rfl⟩ := acts
      have own := commit_of_action member
      have kind := operation_of_commit reached started own
      cases commit with
      | merged docId partialDocument => cases kind.trans operation
      | removed docId => cases kind.trans operation
      | stored docId document =>
          obtain ⟨-, item, results, rfl⟩ := told
          obtain ⟨_, -, -, _, _, -, written⟩ := request_of_commitOf reached own
          have named := written.id
          rw [api.server.config.wire.get?_written, Option.bind_eq_some_iff] at named
          obtain ⟨value, given, entry⟩ := named
          obtain rfl := Stays.eq_of_entry_str _ _ entry
          exact ⟨docId, item, rfl, results, given⟩

/-- A read that its client was told of is an action of the log. -/
theorem read_of_success (valid : ValidIds store)
    (reached : api.live.runs (Pool.initial store statics) schedule = some final)
    (started : .started id request ∈ api.live.events (Pool.initial store statics) schedule)
    (operation : request.operation = .getItem) {served : Served} (ended : final.result id = some served)
    (success : served.response.status < 400) :
    ∃ docId document, request.id = some docId ∧
      (ApiServer.actions api store statics schedule).lookup id = some (.read docId document) ∧
      listing served = [.obj (readSource document).fields] := by
  have told := (linearization_of_live valid reached).told id request served started ended
  cases found : (ApiServer.actions api store statics schedule).lookup id with
  | none =>
      rw [found] at told
      exact absurd success (Nat.not_lt.mpr (told (by rw [operation]; rfl)))
  | some action =>
      rw [found] at told
      obtain ⟨earlier, later, log, -⟩ := List.lookup_eq_some_iff.mp found
      have member : (id, action) ∈ ApiServer.actions api store statics schedule := by simp [log]
      obtain ⟨call, reply, called, acts⟩ := called_of_action reached started member
      cases action with
      | read docId document => exact ⟨docId, document, told.1, rfl, told.2 success⟩
      | write commit =>
          simp only [actionOf, operation] at acts
          split at acts <;> simp_all [Option.bind_eq_some_iff]
      | list hits =>
          simp only [actionOf, operation] at acts
          split at acts <;> simp_all [Option.bind_eq_some_iff]

end

/-- A read that comes in after a create was answered, and succeeds, shows the
item that the create was answered with, as it was written and is read, when no
other request of the run changes the document. -/
theorem created_item_reads_back (api : ApiServer) (store : Index) (statics : Statics) (valid : ValidIds store)
    (first rest : List (Label HttpRequest Choice)) (middle final : ApiServer.Requests)
    (reachedFirst : api.live.runs (Pool.initial store statics) first = some middle)
    (reached : api.live.runs (Pool.initial store statics) (first ++ rest) = some final)
    (creator reader : Nat) (post get : HttpRequest)
    (startedPost : .started creator post ∈ api.live.events (Pool.initial store statics) (first ++ rest))
    (startedGet : .started reader get ∈ api.live.events (Pool.initial store statics) (first ++ rest))
    (creates : post.operation = .createItem) (reads : get.operation = .getItem) (made read : Served)
    (answered : middle.result creator = some made) (created : made.response.status < 400)
    (later : middle.phase reader = none) (ended : final.result reader = some read)
    (found : read.response.status < 400)
    (alone : ∀ id commit, commit ∈ commitsOf id (api.live.events (Pool.initial store statics) (first ++ rest)) →
      get.id = some commit.target → id = creator) :
    ∃ item : JsonObject,
      made.response.body.get? "results" = some (.obj (item.encoded api.server.config.held).fields) ∧
      (item.get? "id" = get.id.map .str →
        listing read = [.obj (readSource (api.server.config.wire.written item)).fields]) := by
  have onward : api.live.runs middle rest = some final := by rwa [System.runs_append _ reachedFirst] at reached
  have linear := linearization_of_live valid reached
  obtain ⟨docId, item, stored, shown_, named⟩ := stored_of_success valid reached startedPost creates
    (System.result_of_runs answered onward) created
  obtain ⟨readId, document, asked, seen, results⟩ := read_of_success valid reached startedGet reads ended found
  refine ⟨item, shown_, fun same => ?_⟩
  obtain rfl : docId = readId := by
    rw [named, asked] at same
    exact Json.str.inj (Option.some.inj same)
  obtain ⟨before, between, after, log, absent⟩ := linear.precedes rfl reachedFirst answered later stored seen
  have others : ∀ commit, .write commit ∈ between.map Prod.snd → commit.target ≠ docId := by
    rintro commit member rfl
    obtain ⟨⟨id, action⟩, entry, rfl⟩ := List.mem_map.mp member
    have acts : (id, .write commit) ∈ ApiServer.actions api store statics (first ++ rest) := by
      rw [log]
      exact List.mem_append_left _ (List.mem_append_right _ (List.mem_cons_of_mem _ entry))
    obtain rfl := alone id commit (commit_of_action acts) asked
    exact absent (List.mem_map_of_mem entry)
  have replays := linear.replays
  rw [log, List.append_assoc, List.map_append, List.cons_append, List.map_cons, List.map_append, List.map_cons]
    at replays
  obtain ⟨start, -, next, rfl, onward⟩ := replays.split
  obtain ⟨now, unchanged, last, ⟨present, -⟩, -⟩ := onward.split
  rw [lookup_of_replays unchanged others, AList.lookup_insert, Option.some.injEq] at present
  subst present
  exact results

def readAfterwards : List (Label HttpRequest Choice) := .start 1 (getFrom "first" firstAppId) :: turnOf 1

def commitsAlone (id : Nat) (schedule : List (Label HttpRequest Choice)) : Bool :=
  (asciiApi.live.events (Pool.initial ∅ {}) schedule).all fun
    | .started _ _ => true
    | .called other call reply => (committed call reply).isNone || other == id

theorem alone_of_commitsAlone {id : Nat} {schedule : List (Label HttpRequest Choice)}
    (alone : commitsAlone id schedule = true) {other : Nat} {commit : Commit}
    (member : commit ∈ commitsOf other (asciiApi.live.events (Pool.initial ∅ {}) schedule)) : other = id := by
  obtain ⟨call, reply, called, made⟩ := mem_commitsOf.mp member
  have own := List.all_eq_true.mp alone _ called
  simpa [made] using own

theorem created_item_reads_back_own :
    ∃ made read : Served, made.response.status = 201 ∧ read.response.status = 200 ∧
      ∃ item : JsonObject,
        made.response.body.get? "results" = some (.obj (item.encoded asciiApi.server.config.held).fields) ∧
        (item.get? "id" = some (.str firstAppId) →
          listing read = [.obj (readSource (asciiApi.server.config.wire.written item)).fields]) := by
  have status : statusAt createdOnce 0 = some 201 ∧ statusAt (createdOnce ++ readAfterwards) 1 = some 200 := by
    decide +kernel
  have alone : commitsAlone 0 (createdOnce ++ readAfterwards) = true := by decide +kernel
  have fresh : (asciiApi.live.runs (Pool.initial ∅ {}) createdOnce).all (fun pool => (pool.phase 1).isNone) = true := by
    decide +kernel
  obtain ⟨middle, made, reachedFirst, answered, created⟩ := ended_of_status status.1
  obtain ⟨final, read, reached, ended, found⟩ := ended_of_status status.2
  rw [reachedFirst, Option.all_some, Option.isNone_iff_eq_none] at fresh
  have startedGet : .started 1 (getFrom "first" firstAppId) ∈
      asciiApi.live.events (Pool.initial ∅ {}) (createdOnce ++ readAfterwards) :=
    System.started_mem_events reached (List.mem_append_right _ List.mem_cons_self)
  exact ⟨made, read, created, found, created_item_reads_back asciiApi ∅ {} validIds_empty createdOnce readAfterwards middle
    final reachedFirst reached 0 1 (postFrom "first" (appBody "first")) (getFrom "first" firstAppId)
    (System.started_mem_events reached List.mem_cons_self) startedGet rfl rfl made read answered (by rw [created]; decide) fresh ended
    (by rw [found]; decide) fun _ _ member _ => alone_of_commitsAlone alone member⟩

end Tgdex.Properties
