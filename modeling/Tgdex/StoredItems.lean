import Tgdex.Items.Discipline
import Tgdex.Items.Writes
import Tgdex.Server

namespace Tgdex

open Tgdex.Data Tgdex.Java Tgdex.Effects Tgdex.Elastic Tgdex.Query Tgdex.Items Tgdex.Search

/-! # What every request keeps

Item requests keep every document under the id it carries, and nothing else
writes. -/

/-- A task that at most searches satisfies what its search does. -/
theorem always_of_searches {P : (call : Call) → (Reply call → Statics → Handler) → Prop} {options : Options}
    {outcome : Settled (List ElasticsearchResponse × Statics) → List Outcome} {handler : Handler}
    (searches : AnswersOrSearches options outcome handler)
    (lookup : ∀ request, P (.search request options) fun reply statics =>
      .done (outcome (Future.delivered (searchResult options reply statics)))) : handler.Always P := by
  rcases searches with ⟨outcomes, rfl⟩ | ⟨model, rfl⟩
  · trivial
  · exact always_search lookup fun settled => trivial

/-- What an item request satisfies and what a search of each kind does, every
request satisfies. -/
theorem always_handler {P : (call : Call) → (Reply call → Statics → Handler) → Prop} (config : Config)
    (items : ∀ call resume, Disciplined call resume → P call resume)
    (sources : ∀ decoded request, P (.search request .sourceOnly) fun reply statics =>
      .done (searchOutcome decoded (Future.delivered (searchResult .sourceOnly reply statics))))
    (aggregations : ∀ options request, options ≠ .sourceOnly → P (.search request options) fun reply statics =>
      .done (aggregationsOutcome (Future.delivered (searchResult options reply statics)))) (request : Request) :
    (request.handler config).Always P := by
  cases request with
  | item request => exact (disciplined_handler config request).imp items
  | search decoded => exact always_of_searches (handleSearch_cases _ decoded) (sources decoded)
  | assets caller decoded =>
      simp only [Request.handler, guarded]
      split
      · trivial
      · exact always_of_searches (handleSearch_cases _ decoded) (sources decoded)
  | count decoded =>
      exact always_of_searches (handleCount_cases _ decoded) fun request => aggregations _ request (by simp)
  | list decoded =>
      exact always_of_searches (handleGetAvailableFilters_cases _ decoded) fun request => aggregations _ request (by simp)

theorem wellFormed_handler (config : Config) (request : Request) :
    (request.handler config).AllCalls WellFormed :=
  always_handler config (fun _ _ disciplined => disciplined.wellFormed) (fun _ _ => trivial) (fun _ _ _ => trivial) request

/-- Every document carries its `_id` as its id, and the id is `fine`. -/
def CarriesIds (fine : String → Prop) (store : Index) : Prop :=
  ∀ id document, store.lookup id = some document → document.get? "id" = some (.str id) ∧ fine id

abbrev Indexed : Index → Prop := CarriesIds fun id => utf16Length id ≤ 256

/-- The ids are UUIDs, as far as the server checks. -/
abbrev ValidIds : Index → Prop := CarriesIds fun id => isValidUuid id = true

theorem utf16Length_of_valid {id : String} (valid : isValidUuid id = true) : utf16Length id ≤ 256 := by
  have twice := utf16Length_le id
  have length := isValidUuid_length valid
  omega

theorem lookup_insert (store : Index) (id other : String) (document : JsonObject) :
    (store.insert id document).lookup other = if other = id then some document else store.lookup other := by
  by_cases same : other = id
  · subst same
    simp
  · rw [AList.lookup_insert_ne same, if_neg same]

theorem lookup_erase (store : Index) (id other : String) :
    (store.erase id).lookup other = if other = id then none else store.lookup other := by
  by_cases same : other = id
  · subst same
    simp
  · rw [AList.lookup_erase_ne same, if_neg same]

/-- What holds of every stored document holds after a write of one that has it too. -/
theorem forall_lookup_insert {store : Index} {P : String → JsonObject → Prop}
    (all : ∀ id document, store.lookup id = some document → P id document) {id : String} {document : JsonObject}
    (here : P id document) : ∀ other found, (store.insert id document).lookup other = some found → P other found := by
  intro other found present
  rw [lookup_insert] at present
  split at present
  · rename_i same
    cases present
    exact same ▸ here
  · exact all other found present

theorem forall_lookup_erase {store : Index} {P : String → JsonObject → Prop}
    (all : ∀ id document, store.lookup id = some document → P id document) (id : String) :
    ∀ other found, (store.erase id).lookup other = some found → P other found := by
  intro other found present
  rw [lookup_erase] at present
  split at present
  · cases present
  · exact all other found present

theorem ValidIds.indexed {store : Index} (valid : ValidIds store) : Indexed store := by
  intro id document stored
  obtain ⟨carries, uuid⟩ := valid id document stored
  exact ⟨carries, utf16Length_of_valid uuid⟩

theorem carriesIds_of_effect {fine : String → Prop} (uuids : ∀ id, isValidUuid id = true → fine id)
    {store after : Index} {call : Call} (carries : CarriesIds fine store) (wellFormed : WellFormed call)
    (effect : Effect store call after) : CarriesIds fine after := by
  cases effect with
  | unchanged => exact carries
  | created fresh => exact absurd wellFormed id
  | @indexed id document => exact forall_lookup_insert carries ⟨wellFormed.2, uuids id wellFormed.1⟩
  | @updated id stored partialDocument present =>
      have merged : (stored.mergeDeep partialDocument).get? "id" = some (.str id) :=
        JsonObject.get?_mergeDeep_scalar _ wellFormed rfl
      exact forall_lookup_insert carries ⟨merged, (carries id stored present).2⟩
  | @deleted id present => exact forall_lookup_erase carries id

theorem hit_of_mem {engine : Engine} {store : Index} {id : String} (indexed : Indexed store) (present : id ∈ store) :
    engine.hits (some (.leaf (.term "id.keyword" id))) store ≠ [] := by
  obtain ⟨document, stored⟩ := Option.isSome_iff_exists.mp (AList.lookup_isSome.mpr present)
  obtain ⟨carried, short⟩ := indexed id document stored
  have found : (⟨id, document⟩ : Hit) ∈ engine.hits (some (.leaf (.term "id.keyword" id))) store := by
    refine Engine.mem_hits.mpr ⟨stored, ?_⟩
    intro asked same
    obtain rfl := Option.some.inj same
    simp [Engine.matchesQuery, Engine.leafHolds, Engine.indexedTerms, fieldTexts_of_text carried, short]
  exact List.ne_nil_of_mem found

def IsRead : Call → Prop
  | .singleSearch _ | .search _ _ => True
  | _ => False

def Request.OnlyReads : Request → Prop
  | .item (.post _ _ _) | .item (.put _ _ _) | .item (.delete _ _) => False
  | _ => True

/-- A request writes nothing, or is one of the three that write. -/
theorem Request.byWrite {motive : Request → Prop} (reads : ∀ request : Request, request.OnlyReads → motive request)
    (post : ∀ caller body moment, motive (.item (.post caller body moment)))
    (put : ∀ caller body moment, motive (.item (.put caller body moment)))
    (delete : ∀ caller id, motive (.item (.delete caller id))) (request : Request) : motive request := by
  cases request with
  | search decoded => exact reads _ trivial
  | assets caller decoded => exact reads _ trivial
  | count decoded => exact reads _ trivial
  | list decoded => exact reads _ trivial
  | item request =>
      cases request with
      | get caller id => exact reads _ trivial
      | post caller body moment => exact post caller body moment
      | put caller body moment => exact put caller body moment
      | delete caller id => exact delete caller id

theorem isRead_handleGetItem (config : Config) (caller : Caller) (id : Option String) :
    (handleGetItem config caller id).AllCalls IsRead := by
  simp only [handleGetItem]
  split
  · trivial
  · simp only [getItem]
    rw [Task.bind_assoc]
    exact always_getSingleDocument (fun query converted => trivial) fun settled => trivial

theorem isRead_handler (config : Config) {request : Request} (reads : request.OnlyReads) :
    (request.handler config).AllCalls IsRead := by
  cases request with
  | item request =>
      cases request with
      | get caller id => exact isRead_handleGetItem config caller id
      | post caller body moment => exact absurd reads not_false
      | put caller body moment => exact absurd reads not_false
      | delete caller id => exact absurd reads not_false
  | search decoded => exact always_of_searches (handleSearch_cases _ decoded) fun request => trivial
  | assets caller decoded =>
      simp only [Request.handler, guarded]
      split
      · trivial
      · exact always_of_searches (handleSearch_cases _ decoded) fun request => trivial
  | count decoded => exact always_of_searches (handleCount_cases _ decoded) fun request => trivial
  | list decoded => exact always_of_searches (handleGetAvailableFilters_cases _ decoded) fun request => trivial

theorem ensures_of_onlyReads {server : Server} {request : Request} (reads : request.OnlyReads) (state : Server.State) :
    (request.handler server.config).Ensures server.engine.backend state fun _ after => after.store = state.store := by
  refine (isRead_handler server.config reads).ensures (fun store => store = state.store) ?_ rfl
  rintro call choice store read rfl
  have effect := server.engine.effect_of_execute call choice state.store
  change (server.engine.execute call choice state.store).2 = state.store
  generalize (server.engine.execute call choice state.store).2 = after at effect
  cases effect with
  | unchanged => rfl
  | indexed => exact absurd read not_false
  | created fresh => exact absurd read not_false
  | updated present => exact absurd read not_false
  | deleted present => exact absurd read not_false

/-- What holds however an update is served, given what it comes to when it is refused. -/
theorem served_put_iff {server : Server} {state : Server.State} {caller : Caller} {body : Option JsonObject}
    {moment : Moment} {P : List Outcome → Server.State → Prop}
    {Q : Update server.engine server.config caller body moment state.store → Prop}
    (refused : ∀ outcomes shared, Refuses outcomes → P outcomes ⟨state.store, shared⟩)
    (updated : ∀ (update : Update server.engine server.config caller body moment state.store) shared,
      P [sendSuccess server.config.held 200 "Success: Item updated successfully" update.item.toJson]
        ⟨update.after, shared⟩ ↔ Q update) :
    (∀ choices, let served := server.serve state (.item (.put caller body moment)) choices
      P served.1 served.2) ↔ ∀ update, Q update := by
  refine ⟨?_, ?_⟩
  · intro served update
    have ensured : (createOrUpdate server.config caller .put body moment).Ensures server.engine.backend state P :=
      Task.ensures_iff_run.mpr served
    obtain ⟨shared, holds⟩ := of_ensures_put update ensured
    exact (updated update shared).mp holds
  · intro each choices
    have ensured : (createOrUpdate server.config caller .put body moment).Ensures server.engine.backend state P :=
      ensures_put refused fun update shared => (updated update shared).mpr (each update)
    exact Task.ensures_iff_run.mp ensured choices

variable {server : Server}

/-- What every admissible call keeps holds in every state that requests lead to. -/
theorem reachable_invariant {Inv : Index → Prop} (empty : Inv ∅)
    (kept : ∀ call choice store, WellFormed call → Inv store → Inv (server.engine.execute call choice store).2)
    {state : Server.State} (reachable : server.Reachable state) : Inv state.store := by
  obtain ⟨requests, rfl⟩ := reachable
  have always : server.Meets (fun _ _ => True) Server.initial requests := Server.meets_of_always (fun _ _ => trivial) _ _
  refine Server.serveAll_preserves (fun state => Inv state.store) ?_ always empty
  exact fun state request _ now => (wellFormed_handler server.config request).ensures Inv kept now

theorem validIds_empty : ValidIds ∅ := by
  intro id document stored
  cases stored

theorem validIds_of_execute {engine : Engine} {call : Call} {choice : Choice} {store : Index}
    (wellFormed : WellFormed call) (valid : ValidIds store) : ValidIds (engine.execute call choice store).2 :=
  carriesIds_of_effect (fun _ uuid => uuid) valid wellFormed (engine.effect_of_execute call choice store)

theorem validIds_of_reachable {state : Server.State} (reachable : server.Reachable state) : ValidIds state.store :=
  reachable_invariant validIds_empty (fun _ _ _ => validIds_of_execute) reachable

theorem ensures_validIds (request : Request) {state : Server.State} (valid : ValidIds state.store) :
    (request.handler server.config).Ensures server.engine.backend state fun _ after => ValidIds after.store :=
  (wellFormed_handler server.config request).ensures ValidIds (fun _ _ _ => validIds_of_execute) valid

end Tgdex
