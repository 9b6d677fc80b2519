import Tgdex.Effects.Masking
import Tgdex.Properties.Reads

namespace Tgdex.Properties

open Tgdex.Data Tgdex.Java Tgdex.Effects Tgdex.Elastic Tgdex.Query Tgdex.Items Tgdex.Search Tgdex.Api

/-! # What stays private

Readers learn nothing of the private documents that are closed to them: the
answers of a run are the same whatever is in them. -/

/-- The document is private, and nothing links the caller to the owner that it
names: neither the id that a read compares nor the words that a search does. -/
structure ClosedTo (api : ApiServer) (request : HttpRequest) (document : JsonObject) : Prop where
  policy : document.get? "accessPolicy" = some (.str "PRIVATE")
  owned : ∃ owner, owner ≠ "" ∧ document.get? "ownerUserId" = some (.str owner)
  reader : ∀ principal sub, Verified api.jwtAuth request.authorization principal →
    principal.getString "sub" = some sub → ¬IsOwner api.server.config.unicode document sub
  searcher : ∀ principal sub, Verified api.jwtAuth request.authorization principal →
    api.jwtAuth.subject principal = some sub → ¬SharesWord api.server.engine document sub

/-- The document is closed to every caller of the run. -/
def Secret (api : ApiServer) (schedule : List (Label HttpRequest Choice)) (document : JsonObject) : Prop :=
  ∀ id request, .start id request ∈ schedule → ClosedTo api request document

variable {api : ApiServer} {request : HttpRequest} {secret : JsonObject → Prop} {index other : Index}

/-- The same document, or two documents under one id that are both secret. -/
def SamePublicly (secret : JsonObject → Prop) (entry other : Sigma fun _ : String => JsonObject) : Prop :=
  entry.1 = other.1 ∧ (entry.2 = other.2 ∨ secret entry.2 ∧ secret other.2)

theorem SamePublicly.symm {entry other : Sigma fun _ : String => JsonObject} (same : SamePublicly secret entry other) :
    SamePublicly secret other entry :=
  ⟨same.1.symm, same.2.imp Eq.symm And.symm⟩

structure SameOutside (secret : JsonObject → Prop) (index other : Index) : Prop where
  entries : List.Forall₂ (SamePublicly secret) index.entries other.entries
  valid : ValidIds index
  validOther : ValidIds other

theorem SameOutside.symm (same : SameOutside secret index other) : SameOutside secret other index :=
  ⟨(same.entries.imp fun _ _ => SamePublicly.symm).flip, same.validOther, same.valid⟩

/-- A query that matches no secret document finds the same in both indexes. -/
theorem SameOutside.hits_eq (same : SameOutside secret index other) {engine : Engine} {query : Option Elastic.Query}
    (excluded : ∀ document, secret document → query.all (engine.matchesQuery document) = false) :
    engine.hits query index = engine.hits query other := by
  have equal : ∀ {entries twins : List (Sigma fun _ : String => JsonObject)},
      List.Forall₂ (SamePublicly secret) entries twins →
      entries.filter (fun entry => query.all fun query => engine.matchesQuery entry.2 query) =
        twins.filter fun entry => query.all fun query => engine.matchesQuery entry.2 query := by
    intro entries twins pairs
    induction pairs with
    | nil => rfl
    | @cons entry twin rest others first pairs ih =>
        obtain ⟨id, document⟩ := entry
        obtain ⟨id_, document_⟩ := twin
        obtain ⟨named, public_⟩ := first
        obtain rfl : id = id_ := named
        rcases public_ with here | ⟨hidden, hiddenToo⟩
        · obtain rfl : document = document_ := here
          simp only [List.filter_cons, ih]
        · rw [List.filter_cons_of_neg, List.filter_cons_of_neg, ih]
          · simp [excluded document_ hiddenToo]
          · simp [excluded document hidden]
  rw [Engine.hits, Engine.hits, equal same.entries]

theorem SameOutside.lookup (same : SameOutside secret index other) {id : String} {document : JsonObject}
    (stored : index.lookup id = some document) :
    ∃ document_, other.lookup id = some document_ ∧ (document = document_ ∨ secret document ∧ secret document_) := by
  have found : ∀ {entries twins : List (Sigma fun _ : String => JsonObject)},
      List.Forall₂ (SamePublicly secret) entries twins → ⟨id, document⟩ ∈ entries →
      ∃ document_, ⟨id, document_⟩ ∈ twins ∧ (document = document_ ∨ secret document ∧ secret document_) := by
    intro entries twins pairs member
    induction pairs with
    | nil => cases member
    | @cons entry twin rest others first pairs ih =>
        rcases List.mem_cons.mp member with rfl | later
        · obtain ⟨id_, document_⟩ := twin
          obtain ⟨rfl, public_⟩ := first
          exact ⟨document_, List.mem_cons_self, public_⟩
        · obtain ⟨document_, there, public_⟩ := ih later
          exact ⟨document_, List.mem_cons_of_mem _ there, public_⟩
  rw [← Option.mem_def, AList.mem_lookup_iff] at stored
  obtain ⟨document_, there, public_⟩ := found same.entries stored
  exact ⟨document_, AList.mem_lookup_iff.mpr there, public_⟩

/-- The document under the id is all that a read of it finds. -/
theorem hits_getLookup {engine : Engine} (valid : ValidIds index) (docId : String) :
    engine.hits (some (getLookup docId)) index =
      (index.lookup docId).toList.map fun document => ⟨docId, document⟩ := by
  cases stored : index.lookup docId with
  | none =>
      refine List.eq_nil_iff_forall_not_mem.mpr fun hit member => ?_
      obtain ⟨-, present⟩ := (mem_hits_getLookup valid).mp member
      cases stored.symm.trans present
  | some document =>
      refine List.perm_singleton.mp ((List.perm_ext_iff_of_nodup (nodup_hits engine _ index).of_map
        (List.nodup_singleton _)).mpr fun hit => ?_)
      rw [mem_hits_getLookup valid, stored, List.mem_singleton]
      obtain ⟨id, source⟩ := hit
      simp only [Option.some.injEq, Hit.mk.injEq]
      exact and_congr_right fun _ => eq_comm

/-- The calls of readers. -/
def Reads (engine : Engine) (secret : JsonObject → Prop) : Call → Prop
  | .singleSearch query => ∃ docId, query = getLookup docId
  | .search sent _ => ∀ document, secret document → sent.query.all (engine.matchesQuery document) = false
  | _ => False

inductive Concealed (secret : JsonObject → Prop) : (call : Call) → Reply call → Reply call → Prop
  | same {call : Call} (reply : Reply call) : Concealed secret call reply reply
  | found {query : Elastic.Query} (total : Nat) (id : String) (aggregations others : Option JsonObject)
      {document twin : JsonObject} (here : secret document) (there : secret twin) :
      Concealed secret (.singleSearch query) (.ok ⟨total, [⟨id, document⟩], aggregations⟩)
        (.ok ⟨total, [⟨id, twin⟩], others⟩)

theorem order_singleton (ranking : Ranking) (hit : Hit) : ranking.order [hit] = [hit] :=
  List.perm_singleton.mp (ranking.perm [hit])

theorem concealed_lookup (engine : Engine) (same : SameOutside secret index other) (docId : String) (choice : Choice) :
    Concealed secret (.singleSearch (getLookup docId)) (engine.execute (.singleSearch (getLookup docId)) choice index).1
      (engine.execute (.singleSearch (getLookup docId)) choice other).1 := by
  cases choice with
  | fails reason => exact .same _
  | answers ranking aggregate generatedId =>
      simp only [Engine.execute, Engine.answer, hits_getLookup same.valid, hits_getLookup same.validOther]
      cases stored : index.lookup docId with
      | none =>
          have absent : other.lookup docId = none := by
            cases present : other.lookup docId with
            | none => rfl
            | some document_ =>
                obtain ⟨document, stored_, -⟩ := same.symm.lookup present
                cases stored.symm.trans stored_
          rw [absent]
          exact .same _
      | some document =>
          obtain ⟨document_, present, rfl | ⟨here, there⟩⟩ := same.lookup stored
          · rw [present]
            exact .same _
          · simp only [present, Option.toList_some, List.map_cons, List.map_nil, order_singleton]
            exact .found _ docId _ _ here there

theorem masks_concealed (engine : Engine) (secret : JsonObject → Prop) :
    Masks engine.backend (Reads engine secret) (SameOutside secret) (Concealed secret) Eq where
  reply := by
    rintro call choice _ store store_ reads same rfl
    cases call with
    | singleSearch query =>
        obtain ⟨docId, rfl⟩ := reads
        exact concealed_lookup engine same docId choice
    | search sent options =>
        have replies : (engine.execute (.search sent options) choice store).1 =
            (engine.execute (.search sent options) choice store_).1 := by
          cases choice with
          | fails reason => rfl
          | answers ranking aggregate generatedId =>
              simp only [Engine.execute, Engine.answer, same.hits_eq reads]
        change Concealed secret _ (engine.execute (.search sent options) choice store).1
          (engine.execute (.search sent options) choice store_).1
        rw [replies]
        exact .same _
    | bulkIndex id document => exact absurd reads not_false
    | exists_ id => exact absurd reads not_false
    | update id partialDocument => exact absurd reads not_false
    | delete id => exact absurd reads not_false
  store := by
    rintro call choice _ store store_ reads same rfl
    cases call with
    | singleSearch query => cases choice <;> exact same
    | search sent options => cases choice <;> exact same
    | bulkIndex id document => exact absurd reads not_false
    | exists_ id => exact absurd reads not_false
    | update id partialDocument => exact absurd reads not_false
    | delete id => exact absurd reads not_false
  receive := by
    intro call reply other shared alike
    cases alike <;> rfl

section

variable {caller : Caller}
  (passed : authenticated api.jwtAuth request.operation.security request.authorization = .ok caller)

include passed

/-- The check of a read does not let the caller of a closed document through, whatever else is in it. -/
theorem ownershipCheck_closed {document : JsonObject} (closed : ClosedTo api request document) :
    ownershipCheck api.server.config.unicode (some (readSource document)) (checkedSub caller) =
      (nonNull (checkedSub caller)).map fun _ => false := by
  obtain ⟨owner, visible, owned⟩ := closed.owned
  have policy := JsonObject.getString_of_get? (readSource_text closed.policy (by decide) (by decide))
  have owner_ := JsonObject.getString_of_get? (readSource_text owned visible (by decide))
  simp only [ownershipCheck, nonNull, bind, Except.bind, policy, Option.any_some, private_ignoringCase, if_true, owner_]
  cases subject : checkedSub caller with
  | none => rfl
  | some sub =>
      simp only [Except.map]
      split
      · rfl
      · rename_i filled
        obtain ⟨-, ⟨principal, user, verified⟩ | ⟨user, -, -⟩⟩ := authenticated_cases passed
        · rw [checkedSub, user] at subject
          have stranger := closed.reader principal sub verified subject
          rw [IsOwner, JsonObject.getString_of_get? owned, Option.any_some, Bool.not_eq_true] at stranger
          rw [stranger]
          rfl
        · rw [checkedSub, user, Option.some.injEq] at subject
          subst subject
          exact absurd rfl filled

/-- A read of a closed document comes out the same whichever document it is. -/
theorem getOutcome_closed {document twin : JsonObject} (here : ClosedTo api request document)
    (there : ClosedTo api request twin) (total : Nat) (id : String) (aggregations others : Option JsonObject)
    (seen : Statics) :
    getOutcome (getItemResult api.server.config.unicode (checkedSub caller)
        (Future.delivered (singleResult (.ok ⟨total, [⟨id, document⟩], aggregations⟩) seen))) =
      getOutcome (getItemResult api.server.config.unicode (checkedSub caller)
        (Future.delivered (singleResult (.ok ⟨total, [⟨id, twin⟩], others⟩) seen))) := by
  simp only [singleResult]
  split
  · rfl
  · simp only [List.head?_cons, Future.delivered, getItemResult, ownershipCheck_closed passed here,
      ownershipCheck_closed passed there]
    split
    · rfl
    · cases checkedSub caller <;> rfl

/-- A search of the caller leaves out what is closed to them. -/
theorem excluded_of_built {isAssetSearch isCountApi : Bool} {decoded : QueryDecoderRequestDTO} {model : QueryModel}
    {query : Option Elastic.Query} {document : JsonObject} (closed : ClosedTo api request document)
    (built : build api.server.config.unicode isAssetSearch isCountApi (request.context api.jwtAuth caller) = .ok decoded)
    (accepted : Accepted api.server.config.unicode decoded model) (queried : searchQuery model = .ok query) :
    query.all (api.server.engine.matchesQuery document) = false := by
  by_contra found
  rw [Bool.not_eq_false] at found
  obtain ⟨body, from_⟩ := builtFrom_of_build built
  obtain ⟨access, given, visible⟩ := not_hidden_of_finds accepted (ordinary_of_build built) ⟨query, queried, found⟩
  obtain rfl := Option.some.inj (from_.access.symm.trans given)
  refine visible ((hiddenFrom_ownersOnly (.inl closed.policy)).mpr fun sub named => ?_)
  have subject : (caller.user.bind api.jwtAuth.subject) = some sub := (Option.filter_eq_some_iff.mp named).1
  obtain ⟨-, ⟨principal, user, verified⟩ | ⟨user, -, -⟩⟩ := authenticated_cases passed
  · rw [user, Option.bind_some] at subject
    exact closed.searcher principal sub verified subject
  · rw [user] at subject
    cases subject

end

theorem unaware_search {model : QueryModel} {options : Options}
    {outcome : Settled (List ElasticsearchResponse × Statics) → List Outcome}
    (leavesOut : ∀ query document, searchQuery model = .ok query → secret document →
      query.all (api.server.engine.matchesQuery document) = false) :
    (answered ((Elastic.search model options).bind fun settled => .done (outcome settled))).Always
      (Unaware (Reads api.server.engine secret) (Concealed secret)) := by
  simp only [Elastic.search, executeSearch]
  cases asked : searchRequest model options with
  | error cause => trivial
  | ok sent =>
      obtain ⟨queried, -⟩ := sent_of_searchRequest asked
      refine ⟨⟨fun document hidden => leavesOut _ document queried hidden, fun reply other alike seen => ?_⟩,
        fun _ _ => trivial⟩
      cases alike
      rfl

theorem unaware_controller {caller : Caller}
    (passed : authenticated api.jwtAuth request.operation.security request.authorization = .ok caller)
    (reads : request.operation.writes = false) (closed : ∀ document, secret document → ClosedTo api request document) :
    (answered (request.controller api.jwtAuth api.server.config caller)).Always
      (Unaware (Reads api.server.engine secret) (Concealed secret)) := by
  have lists : ∀ isAssetSearch,
      (answered (answerSearch api.server.config.unicode (request.context api.jwtAuth caller) isAssetSearch)).Always
        (Unaware (Reads api.server.engine secret) (Concealed secret)) := by
    intro isAssetSearch
    rcases answerSearch_cases api.server.config.unicode (request.context api.jwtAuth caller) isAssetSearch with
      refused | ⟨decoded, built, goes⟩
    · rw [refused]
      trivial
    rw [goes]
    simp only [Search.handleSearch, postSearch]
    cases made : searchModel api.server.config.unicode decoded with
    | error cause => trivial
    | ok model =>
        obtain ⟨plain, decoded_, fields, rfl⟩ := getQueryModel_of_searchModel made
        exact unaware_search fun query document queried hidden =>
          excluded_of_built passed (closed document hidden) built (.inl decoded_) queried
  cases operation : request.operation with
  | createItem => cases operation ▸ reads
  | updateItem => cases operation ▸ reads
  | deleteItem => cases operation ▸ reads
  | search =>
      simp only [HttpRequest.controller, operation]
      exact lists false
  | myAssetsSearch =>
      simp only [HttpRequest.controller, operation, guarded]
      split
      · trivial
      · exact lists true
  | count =>
      simp only [HttpRequest.controller, operation, SearchController.handleCount]
      cases built : build api.server.config.unicode false true (request.context api.jwtAuth caller) with
      | error cause => trivial
      | ok decoded =>
          simp only [bind, Except.bind, pure, Except.pure, orFail, Search.handleCount, postCount, countModel]
          cases decoded_ : getQueryModel api.server.config.unicode decoded with
          | error cause => trivial
          | ok plain =>
              exact unaware_search fun query document queried hidden =>
                excluded_of_built passed (closed document hidden) built (.inl decoded_) queried
  | listAvailableFilters =>
      simp only [HttpRequest.controller, operation, ListController.handleGetAvailableFilters]
      cases built : build api.server.config.unicode false false (request.context api.jwtAuth caller) with
      | error cause => trivial
      | ok decoded =>
          simp only [bind, Except.bind, pure, Except.pure, orFail, Search.handleGetAvailableFilters, getAvailableFilters]
          cases filled decoded.filter with
          | none => trivial
          | some names =>
              cases decoded_ : listMultipleItemTypesQuery api.server.config.unicode decoded with
              | error cause => trivial
              | ok model =>
                  exact unaware_search fun query document queried hidden =>
                    excluded_of_built passed (closed document hidden) built (.inr decoded_) queried
  | getItem =>
      simp only [HttpRequest.controller, operation, handleGetItem]
      split
      · trivial
      · rename_i itemId named
        refine ⟨⟨⟨itemId, rfl⟩, fun reply other alike seen => ?_⟩, fun _ _ => trivial⟩
        cases alike with
        | same => rfl
        | found total id aggregations others here there =>
            have same := getOutcome_closed passed (closed _ here) (closed _ there) total id aggregations others seen
            exact congrArg (fun outcomes => (Task.done ⟨answer outcomes, false⟩ : Work Served)) same

theorem unaware_of_readers (reads : request.operation.writes = false)
    (closed : ∀ document, secret document → ClosedTo api request document) :
    (api.route request).Always (Unaware (Reads api.server.engine secret) (Concealed secret)) := by
  rcases api.route_cases request with ⟨failure, refused⟩ | ⟨caller, passed, -, served⟩
  · rw [refused]
    trivial
  · rw [served]
    exact unaware_controller passed reads closed

/-- What the clients of a run are answered with. -/
def answersOf (api : ApiServer) (store : Index) (statics : Statics) (schedule : List (Label HttpRequest Choice)) :
    Option (Nat → Option Served) :=
  (api.live.runs (Pool.initial store statics) schedule).map Pool.result

theorem answersOf_near {statics : Statics} {schedule : List (Label HttpRequest Choice)} {seen : Nat → Option Served}
    (readers : ∀ id request, .start id request ∈ schedule → request.operation.writes = false)
    (same : SameOutside (Secret api schedule) index other) (answers : answersOf api index statics schedule = some seen) :
    answersOf api other statics schedule = some seen := by
  obtain ⟨final, reached, rfl⟩ := Option.map_eq_some_iff.mp answers
  have identical : List.Forall₂ (Label.Close Eq) schedule schedule := List.forall₂_same.mpr fun label _ => by
    cases label with
    | start id request => exact .start id request
    | execute id choice => exact .execute id rfl
    | receive id => exact .receive id
    | handle id => exact .handle id
  obtain ⟨final_, reached_, alike⟩ := System.close_runs (masks_concealed api.server.engine (Secret api schedule))
    (fun id request starts => unaware_of_readers (readers id request starts) fun document hidden => hidden id request starts)
    (Pool.alike_initial same statics) (Pool.initial_always index statics) identical reached
  exact Option.map_eq_some_iff.mpr ⟨final_, reached_, (funext alike.result).symm⟩

/-- Readers learn nothing of private documents that are not their own: two
indexes that differ only inside documents closed to every caller of the run give
every request the same answer, in every interleaving of gets, searches, counts
and lists. -/
theorem private_documents_concealed (api : ApiServer) (index other : Index) (statics : Statics)
    (schedule : List (Label HttpRequest Choice))
    (readers : ∀ id request, .start id request ∈ schedule → request.operation.writes = false)
    (same : SameOutside (Secret api schedule) index other) :
    answersOf api index statics schedule = answersOf api other statics schedule :=
  Option.ext fun _ => ⟨answersOf_near readers same, answersOf_near readers same.symm⟩

def describedAs (description : String) : JsonObject :=
  (privateApp.put "ownerUserId" (.str "first")).put "description" (.str description)

/-- The private app, and one that everybody may see. -/
def indexWith (description : String) : Index :=
  (AList.insert appId (describedAs description) ∅).insert "3d4e5f60-bbbb-4ccc-8ddd-1234567890ab" otherApp

/-- The descriptions of the matched documents, each counted once. -/
def countDescriptions (hits : List Hit) : Option JsonObject :=
  some ⟨[("results", .obj [("buckets", .arr (hits.map fun hit =>
    .obj [("key", .str ((hit.source.getString "description").getD "")), ("doc_count", .num "1")]))])]⟩

def countFrom (token : String) : HttpRequest :=
  { searchFrom token with
    operation := .count
    body := some ⟨[("searchCriteria", .arr [.obj [("searchType", .str "term"), ("field", .str "industry"),
      ("values", .arr [.str "crops"])]])]⟩ }

def strangerReads : List (Label HttpRequest Choice) :=
  [.start 0 (getFrom "second" appId), .start 1 (searchFrom "second"), .start 2 (countFrom "second")] ++
    turnOf 1 ++ [.execute 2 (.answers .asStored countDescriptions ""), .receive 2, .handle 2] ++ turnOf 0

/-- The read is refused, the search shows the other app, and the count counts it alone. -/
example : ((answersOf asciiApi (indexWith "what the owner plans") {} strangerReads).map fun answers =>
    [0, 1, 2].map fun id => (answers id).map fun served => (served.response.status, (listing served).map javaText)) =
      some [some (500, []), some (200, [javaText (shown otherApp)]), some (200, ["{an app=1}"])] := by
  decide +kernel

theorem request_of_strangerReads {id : Nat} {request : HttpRequest} (starts : .start id request ∈ strangerReads) :
    request.operation.writes = false ∧ request.authorization = some "Bearer second" := by
  simp only [strangerReads, turnOf, List.cons_append, List.nil_append, List.mem_cons, Label.start.injEq, reduceCtorEq,
    List.not_mem_nil, or_false] at starts
  rcases starts with ⟨-, rfl⟩ | ⟨-, rfl⟩ | ⟨-, rfl⟩ <;> exact ⟨rfl, by decide⟩

theorem validIds_indexWith (description : String) : ValidIds (indexWith description) :=
  forall_lookup_insert (forall_lookup_insert (fun _ _ present => nomatch present) ⟨rfl, by decide⟩) ⟨rfl, by decide⟩

theorem secret_describedAs (description : String) : Secret asciiApi strangerReads (describedAs description) := by
  intro id request starts
  have bearer := (request_of_strangerReads starts).2
  have second : ∀ principal sub, Verified asciiApi.jwtAuth request.authorization principal →
      principal.getString "sub" = some sub → sub = "second" := by
    rintro principal sub ⟨token, given, verified⟩ named
    rw [bearer] at given
    have own : presented (some "Bearer second") = some "second" := by decide +kernel
    obtain rfl := Option.some.inj (own.symm.trans given)
    cases verified
    exact (Option.some.inj named).symm
  refine ⟨rfl, ⟨"first", by decide, rfl⟩, fun principal sub verified named => ?_, fun principal sub verified named => ?_⟩
  · obtain rfl := second principal sub verified named
    have owner : (describedAs description).getString "ownerUserId" = some "first" := rfl
    rw [IsOwner, owner]
    decide +kernel
  · obtain rfl := second principal sub verified named
    have owner : ownerWords asciiApi.server.engine (describedAs description) = ["first"] := by
      rw [ownerWords, fieldTexts_of_text (rfl : (describedAs description).get? "ownerUserId" = some (.str "first"))]
      decide +kernel
    rw [SharesWord, owner]
    decide +kernel

theorem private_documents_concealed_described :
    answersOf asciiApi (indexWith "an app") {} strangerReads =
      answersOf asciiApi (indexWith "what the owner plans") {} strangerReads := by
  have same : SameOutside (Secret asciiApi strangerReads) (indexWith "an app") (indexWith "what the owner plans") :=
    ⟨.cons ⟨rfl, .inl rfl⟩ (.cons ⟨rfl, .inr ⟨secret_describedAs _, secret_describedAs _⟩⟩ .nil), validIds_indexWith _,
      validIds_indexWith _⟩
  exact private_documents_concealed asciiApi _ _ {} strangerReads
    (fun _ _ starts => (request_of_strangerReads starts).1) same

end Tgdex.Properties
