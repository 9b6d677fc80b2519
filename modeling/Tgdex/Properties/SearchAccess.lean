import Tgdex.Items.Service
import Tgdex.Query.Meaning

namespace Tgdex.Properties

open Tgdex.Data Tgdex.Java Tgdex.Elastic Tgdex.Query Tgdex.Items

/-! # Which documents a caller's searches find -/

section

variable (engine : Engine) (document : JsonObject)

/-- The words of the stored access policy. -/
def policyWords : List String := (fieldTexts document ["accessPolicy"]).flatMap engine.analyzer.tokens

/-- The words of the stored owner. -/
def ownerWords : List String := (fieldTexts document ["ownerUserId"]).flatMap engine.analyzer.tokens

/-- The caller's id has a word in common with the stored owner. -/
def SharesWord (sub : String) : Prop := ∃ word ∈ engine.analyzer.tokens sub, word ∈ ownerWords engine document

/-- A word of the policy lets the caller search for the document. -/
def ListedFor (sub : String) : Prop :=
  "open" ∈ policyWords engine document ∨ "restricted" ∈ policyWords engine document ∨
    ("private" ∈ policyWords engine document ∧ SharesWord engine document sub)

def HiddenFrom (access : AccessPolicyRequestDTO) : Prop :=
  match access.caller with
  | some sub =>
      if access.myAssetsReq = some true then ¬SharesWord engine document sub
      else ¬ListedFor engine document sub
  | none => "private" ∈ policyWords engine document

variable {engine document}

theorem leafHolds_policy (policy : String) :
    engine.leafHolds document (.match_ "accessPolicy" policy none none) = true ↔
      ∃ word ∈ engine.analyzer.tokens policy, word ∈ policyWords engine document := by
  simp [Engine.leafHolds, Engine.indexedTerms, Engine.queryTerms, policyWords]

theorem leafHolds_owner (sub : String) :
    engine.leafHolds document (.match_ "ownerUserId" sub none none) = true ↔ SharesWord engine document sub := by
  simp [Engine.leafHolds, Engine.indexedTerms, Engine.queryTerms, ownerWords, SharesWord]

theorem accessHolds_iff {access : AccessPolicyRequestDTO} :
    AccessHolds (engine.leafHolds document) access ↔ ¬HiddenFrom engine document access := by
  simp only [AccessHolds, HiddenFrom]
  cases access.caller with
  | none =>
      simp only [← Bool.not_eq_true, leafHolds_policy, engine.analyzer.tokens_private, List.mem_singleton,
        exists_eq_left]
  | some sub =>
      by_cases mine : access.myAssetsReq = some true
      · simp [mine, leafHolds_owner]
      · simp only [mine, if_false, not_not, leafHolds_policy, leafHolds_owner, ListedFor,
          engine.analyzer.tokens_open, engine.analyzer.tokens_restricted, engine.analyzer.tokens_private,
          List.mem_singleton, exists_eq_left]

/-- Neither field of the exclusion is indexed. -/
theorem not_excluded (itemType : String) : ¬Excluded (engine.leafHolds document) itemType := by
  simp [Excluded, Engine.leafHolds, Engine.indexedTerms]

theorem visible_iff {access : AccessPolicyRequestDTO} :
    Visible (engine.leafHolds document) access ↔ ¬HiddenFrom engine document access := by
  refine ⟨?_, ?_⟩
  · intro shown
    obtain ⟨admitted, -, -⟩ := shown
    exact accessHolds_iff.mp admitted
  · intro shown
    exact ⟨accessHolds_iff.mpr shown, not_excluded _, not_excluded _⟩

end

/-- The model that a search, count, my-assets or list request is decoded to. -/
def Accepted (unicode : Unicode) (request : QueryDecoderRequestDTO) (model : QueryModel) : Prop :=
  getQueryModel unicode request = .ok model ∨ listMultipleItemTypesQuery unicode request = .ok model

def Finds (engine : Engine) (model : QueryModel) (document : JsonObject) : Prop :=
  ∃ query, searchQuery model = .ok query ∧ query.all (engine.matchesQuery document) = true

section

variable {engine : Engine} {unicode : Unicode} {document : JsonObject} {model queries : QueryModel}
  {request : QueryDecoderRequestDTO}

theorem finds_iff (given : model.queries = some queries) :
    Finds engine model document ↔ truthOf (engine.leafHolds document) queries = true := by
  refine ⟨?_, ?_⟩
  · intro shown
    obtain ⟨query, sent, matched⟩ := shown
    simp only [searchQuery, given] at sent
    cases converted : queries.toElasticsearchQuery with
    | error cause => simp [converted] at sent
    | ok built =>
        simp only [converted, Except.map_ok, Except.ok.injEq] at sent
        subst sent
        rw [truthOf_of_converts converted]
        simpa [Engine.matchesQuery] using matched
  · intro held
    obtain ⟨query, converted⟩ := convertible_of_truthOf held
    have built : queries.toElasticsearchQuery = .ok query := converted
    refine ⟨some query, ?_, ?_⟩
    · simp only [searchQuery, given, built, Except.map_ok]
    · rw [truthOf_of_converts converted] at held
      simpa [Engine.matchesQuery] using held

theorem queries_of_list (accepted : listMultipleItemTypesQuery unicode request = .ok model) :
    ∃ queries, model.queries = some queries := by
  simp only [listMultipleItemTypesQuery, bind_eq_ok, pure, Except.pure, Except.ok.injEq] at accepted
  obtain ⟨_, -, _, -, _, -, rfl⟩ := accepted
  exact ⟨_, rfl⟩

/-- Whatever else it asks for, an ordinary request does not find what the
access policy hides from its caller. -/
theorem not_hidden_of_finds (accepted : Accepted unicode request model)
    (ordinary : isParentObjectInfo unicode request = false) (found : Finds engine model document) :
    ∃ access, request.accessPolicyRequest = some access ∧ ¬HiddenFrom engine document access := by
  have visible : ∃ access, request.accessPolicyRequest = some access ∧
      Visible (engine.leafHolds document) access := by
    rcases accepted with accepted | accepted
    · obtain ⟨queryMap, -, -, given⟩ := getQueryModel_cases accepted ordinary
      exact visible_of_getQueryModel accepted ordinary given ((finds_iff given).mp found)
    · obtain ⟨queries, given⟩ := queries_of_list accepted
      exact visible_of_listMultipleItemTypesQuery accepted given ((finds_iff given).mp found)
  obtain ⟨access, given, visible⟩ := visible
  exact ⟨access, given, visible_iff.mp visible⟩

def fieldsRequest (access : Option AccessPolicyRequestDTO) : QueryDecoderRequestDTO where
  searchType := some "responseFilter_"
  responseFilterRequest := some ⟨some "responseFilter_", some false, some ["id"], none⟩
  accessPolicyRequest := access

theorem ordinary_fieldsRequest (access : Option AccessPolicyRequestDTO) :
    isParentObjectInfo unicode (fieldsRequest access) = false := by
  rw [← Bool.not_eq_true]
  intro parent
  have same : "getParentObjectInfo".toList.length = "responseFilter_".toList.length :=
    length_of_equalsIgnoreCase parent
  exact absurd same (by decide)

theorem fieldsRequest_finds (engine : Engine) (unicode : Unicode) {access : AccessPolicyRequestDTO}
    (shown : ¬HiddenFrom engine document access) :
    ∃ model, getQueryModel unicode (fieldsRequest (some access)) = .ok model ∧ Finds engine model document := by
  let queryMap := (addExclusions (accessPolicyClause access {})).addFilter
    { queryType := some .bool, includeFields := some ["id"] }
  let model : QueryModel :=
    { queries := some queryMap.getBoolQuery, includeFields := includeFieldsOf queryMap.filter }
  have decoded : getQueryMap unicode (fieldsRequest (some access)) = .ok queryMap := rfl
  have accepted : getQueryModel unicode (fieldsRequest (some access)) = .ok model := by
    simp only [getQueryModel, ordinary_fieldsRequest, decoded]
    rfl
  have noCriteria : criteriaOf (fieldsRequest (some access)) = [] := rfl
  have builds : queryMap.Builds := builds_getQueryMap decoded (by simp [noCriteria])
  have holds : queryMap.Holds (engine.leafHolds document) := by
    rw [holds_getQueryMap decoded builds (by simp [noCriteria])]
    refine ⟨?_, by simp [noCriteria], ?_⟩
    · intro given same
      cases same
      exact visible_iff.mpr shown
    · intro text asked
      cases asked
  refine ⟨model, accepted, ?_⟩
  rw [finds_iff rfl, QueryMap.truthOf_getBoolQuery builds]
  exact holds

def parentRequest (access : Option AccessPolicyRequestDTO) : QueryDecoderRequestDTO where
  searchType := some "getParentObjectInfo"
  id := some ""
  accessPolicyRequest := access

theorem isParentObjectInfo_parentRequest (access : Option AccessPolicyRequestDTO) :
    isParentObjectInfo unicode (parentRequest access) = true :=
  equalsIgnoreCase_refl unicode "getParentObjectInfo"

/-- The model of a parent request carries no query to search with. -/
theorem parentRequest_finds (engine : Engine) (unicode : Unicode) (access : Option AccessPolicyRequestDTO)
    (document : JsonObject) :
    ∃ model, getQueryModel unicode (parentRequest access) = .ok model ∧ Finds engine model document := by
  refine ⟨{ mustQuery [termQuery "id.keyword" ""] with includeFields := some parentObjectInfoFields }, ?_, ?_⟩
  · simp only [getQueryModel, isParentObjectInfo_parentRequest]
    rfl
  · exact ⟨none, rfl, rfl⟩

end

structure RequestOf (unicode : Unicode) (access : Option AccessPolicyRequestDTO) (parent : Bool)
    (request : QueryDecoderRequestDTO) : Prop where
  access : request.accessPolicyRequest = access
  parent : isParentObjectInfo unicode request = parent

/-- Nobody finds the document with an accepted request of this kind. -/
def OutOfReach (engine : Engine) (unicode : Unicode) (access : Option AccessPolicyRequestDTO) (parent : Bool)
    (document : JsonObject) : Prop :=
  ∀ request model, RequestOf unicode access parent request → Accepted unicode request model →
    ¬Finds engine model document

def Hidden (engine : Engine) (access : Option AccessPolicyRequestDTO) (parent : Bool) (document : JsonObject) :
    Prop :=
  parent = false ∧ ∀ given, access = some given → HiddenFrom engine document given

theorem outOfReach_iff {engine : Engine} (unicode : Unicode) {access : Option AccessPolicyRequestDTO}
    {parent : Bool} {document : JsonObject} :
    OutOfReach engine unicode access parent document ↔ Hidden engine access parent document := by
  refine ⟨?_, ?_⟩
  · intro never
    cases parent with
    | true =>
        obtain ⟨model, accepted, found⟩ := parentRequest_finds engine unicode access document
        exact absurd found (never (parentRequest access) model ⟨rfl, isParentObjectInfo_parentRequest access⟩
          (.inl accepted))
    | false =>
        refine ⟨rfl, ?_⟩
        rintro given rfl
        by_contra shown
        obtain ⟨model, accepted, found⟩ := fieldsRequest_finds engine unicode shown
        exact never (fieldsRequest (some given)) model ⟨rfl, ordinary_fieldsRequest _⟩ (.inl accepted) found
  · rintro ⟨rfl, hidden⟩ request model ⟨rfl, ordinary⟩ accepted found
    obtain ⟨given, named, shown⟩ := not_hidden_of_finds accepted ordinary found
    exact shown (hidden given named)

section

variable (engine : Engine) (access : Option AccessPolicyRequestDTO) (document : JsonObject)

def Owns : Prop :=
  ∃ sub, access.bind AccessPolicyRequestDTO.caller = some sub ∧ document.get? "ownerUserId" = some (.str sub)

/-- The document is private, or the caller only asks for their own. -/
def OwnersOnly : Prop :=
  document.get? "accessPolicy" = some (.str "PRIVATE") ∨
    ∃ given sub, access = some given ∧ given.caller = some sub ∧ given.myAssetsReq = some true

/-- What is kept from strangers is the caller's own. -/
def Confidential : Prop := OwnersOnly access document → Owns access document

/-- No word links the caller to the stored owner. -/
def Unrelated : Prop :=
  ∀ sub, access.bind AccessPolicyRequestDTO.caller = some sub → ¬SharesWord engine document sub

variable {engine access document}

theorem policyWords_private (stored : document.get? "accessPolicy" = some (.str "PRIVATE")) :
    policyWords engine document = ["private"] := by
  simp [policyWords, fieldTexts_of_text stored, engine.analyzer.tokens_private]

/-- From an owners' document only callers without a common word are kept away. -/
theorem hiddenFrom_ownersOnly {given : AccessPolicyRequestDTO} (owners : OwnersOnly (some given) document) :
    HiddenFrom engine document given ↔ Unrelated engine (some given) document := by
  simp only [HiddenFrom, Unrelated]
  cases named : given.caller with
  | none =>
      rcases owners with stored | ⟨_, sub, same, caller, -⟩
      · simp [named, policyWords_private stored]
      · cases same
        rw [named] at caller
        cases caller
  | some sub =>
      by_cases mine : given.myAssetsReq = some true
      · simp [named, mine]
      · rcases owners with stored | ⟨_, _, same, -, asked⟩
        · simp [named, mine, ListedFor, policyWords_private stored]
        · cases same
          exact absurd asked mine

theorem hidden_ownersOnly {parent : Bool} (owners : OwnersOnly access document) :
    Hidden engine access parent document ↔ parent = false ∧ Unrelated engine access document := by
  simp only [Hidden]
  cases access with
  | none => simp [Unrelated]
  | some given => simp [hiddenFrom_ownersOnly owners]

end

/-- Every document that the requests of one kind find is confidential exactly
when the caller owns it, or it is not an owners' document, or the requests are
not for a parent and no word links the caller to the owner. -/
theorem search_confidential_iff (engine : Engine) (unicode : Unicode) (access : Option AccessPolicyRequestDTO)
    (parent : Bool) (document : JsonObject) :
    (∀ request model, RequestOf unicode access parent request → Accepted unicode request model →
      Finds engine model document → Confidential access document) ↔
      Owns access document ∨ ¬OwnersOnly access document ∨
        (parent = false ∧ Unrelated engine access document) := by
  by_cases owners : OwnersOnly access document
  · rw [← hidden_ownersOnly owners, ← outOfReach_iff unicode]
    refine ⟨?_, ?_⟩
    · intro confidential
      by_cases owned : Owns access document
      · exact .inl owned
      · refine .inr (.inr fun request model asked accepted found => ?_)
        exact owned (confidential request model asked accepted found owners)
    · rintro (owned | shared | never) request model asked accepted found
      · exact fun _ => owned
      · exact absurd owners shared
      · exact absurd found (never request model asked accepted)
  · exact ⟨fun _ => .inr (.inl owners), fun _ _ _ _ _ _ claimed => absurd claimed owners⟩

/-- A private document whose owner's id has a segment in common with `sub` below. -/
def sharedSegment : JsonObject :=
  ⟨[("id", .str "2c3d4e5f-aaaa-4bbb-8ccc-0123456789ab"), ("type", .arr [.str "adex:Apps"]),
    ("accessPolicy", .str "PRIVATE"), ("ownerUserId", .str "11111111-2222-4333-8444-555555555555")]⟩

def appsRequest : QueryDecoderRequestDTO where
  searchType := some "searchCriteria_"
  searchCriteriaRequest := some ⟨some [⟨some "type", some "term", [.str "adex:Apps"]⟩]⟩
  accessPolicyRequest := some ⟨some "99999999-2222-4888-8777-666666666666", some false⟩
  size := some 10
  page := some 1

theorem shared_segment_leaks :
    ∃ model, getQueryModel asciiUnicode appsRequest = .ok model ∧ Finds asciiEngine model sharedSegment ∧
      ¬Confidential appsRequest.accessPolicyRequest sharedSegment := by
  refine ⟨_, rfl, ⟨_, rfl, by decide +kernel⟩, fun confidential => ?_⟩
  obtain ⟨sub, caller, owner⟩ := confidential (.inl rfl)
  cases caller
  have stored : sharedSegment.get? "ownerUserId" = some (.str "11111111-2222-4333-8444-555555555555") := rfl
  rw [stored] at owner
  exact absurd (Json.str.inj (Option.some.inj owner)) (by decide)

/-- An AI model or data bank that is not uploaded or whose publication is pending. -/
def Unpublished (document : JsonObject) : Prop :=
  (∃ types, document.get? "type" = some (.arr types) ∧
    (containsText types itemTypeAiModel = true ∨ containsText types itemTypeDataBank = true)) ∧
    (document.get? "dataUploadStatus" = some (.bool false) ∨ document.get? "publishStatus" = some (.str "PENDING"))

/-- Unpublished items are out of reach exactly when the access policy hides
them: the exclusion never applies. -/
theorem unpublished_outOfReach_iff (engine : Engine) (unicode : Unicode) (access : Option AccessPolicyRequestDTO)
    (parent : Bool) (document : JsonObject) :
    (Unpublished document → OutOfReach engine unicode access parent document) ↔
      ¬Unpublished document ∨ Hidden engine access parent document := by
  rw [outOfReach_iff, imp_iff_not_or]

def pendingModel : JsonObject :=
  ⟨[("id", .str "2c3d4e5f-aaaa-4bbb-8ccc-0123456789ab"), ("type", .arr [.str "adex:AiModel"]),
    ("accessPolicy", .str "OPEN"), ("dataUploadStatus", .bool false), ("publishStatus", .str "PENDING")]⟩

def modelsRequest : QueryDecoderRequestDTO where
  searchType := some "searchCriteria_"
  searchCriteriaRequest := some ⟨some [⟨some "type", some "term", [.str "adex:AiModel"]⟩]⟩
  accessPolicyRequest := some ⟨none, some false⟩
  size := some 10
  page := some 1

theorem pending_model_found :
    Unpublished pendingModel ∧
      ∃ model, getQueryModel asciiUnicode modelsRequest = .ok model ∧ Finds asciiEngine model pendingModel := by
  refine ⟨⟨⟨_, rfl, .inl rfl⟩, .inl rfl⟩, _, rfl, _, rfl, by decide +kernel⟩

section

variable (engine : Engine) (unicode : Unicode) (access : AccessPolicyRequestDTO) (document : JsonObject)

def Admits : Prop := truthOf (engine.leafHolds document) (accessPolicyClause access {}).getBoolQuery = true

def LetsGet : Prop := ownershipCheck unicode (some document) (some (access.caller.getD "")) = .ok true

def SaysPrivate : Prop := (document.getString "accessPolicy").any (equalsIgnoreCase unicode "private") = true

def IsOwner (sub : String) : Prop :=
  (document.getString "ownerUserId").any (fun owner => equalsIgnoreCase unicode owner sub) = true

/-- The words of the policy say what the policy as a whole does. -/
def WordsAgree : Prop :=
  match access.caller with
  | none => "private" ∈ policyWords engine document ↔ SaysPrivate unicode document
  | some sub =>
      (SaysPrivate unicode document → (ListedFor engine document sub ↔ IsOwner unicode document sub)) ∧
        (¬SaysPrivate unicode document → ListedFor engine document sub)

variable {engine unicode access document}

theorem admits_iff : Admits engine access document ↔ ¬HiddenFrom engine document access := by
  have builds : (accessPolicyClause access {}).Builds := builds_accessPolicyClause.mpr QueryMap.builds_empty
  rw [Admits, QueryMap.truthOf_getBoolQuery builds, holds_accessPolicyClause, accessHolds_iff]
  exact and_iff_right QueryMap.holds_empty

theorem caller_ne_empty {sub : String} (named : access.caller = some sub) : sub ≠ "" := by
  have kept := (Option.filter_eq_some_iff.mp named).2
  simpa using kept

theorem letsGet_iff :
    LetsGet unicode access document ↔
      ¬SaysPrivate unicode document ∨ ∃ sub, access.caller = some sub ∧ IsOwner unicode document sub := by
  simp only [LetsGet, ownershipCheck, SaysPrivate]
  by_cases privately : (document.getString "accessPolicy").any (equalsIgnoreCase unicode "private") = true
  · cases named : access.caller with
    | none => simp [privately, pure, Except.pure]
    | some sub =>
        cases owner : document.getString "ownerUserId" with
        | none => simp [privately, caller_ne_empty named, owner, IsOwner, nonNull]
        | some ownerUserId =>
            simp [privately, caller_ne_empty named, owner, IsOwner, nonNull, pure, Except.pure, bind, Except.bind]
  · simp [privately, pure, Except.pure]

end

/-- Searching and reading agree exactly when the words of the policy say what
the policy does. -/
theorem search_get_agree_iff (engine : Engine) (unicode : Unicode) (access : AccessPolicyRequestDTO)
    (document : JsonObject) (others : access.myAssetsReq ≠ some true) :
    (Admits engine access document ↔ LetsGet unicode access document) ↔
      WordsAgree engine unicode access document := by
  rw [admits_iff, letsGet_iff]
  simp only [HiddenFrom, WordsAgree]
  cases access.caller with
  | none =>
      have anonymous : (¬SaysPrivate unicode document ∨ ∃ sub, none = some sub ∧ IsOwner unicode document sub) ↔
          ¬SaysPrivate unicode document := by simp
      rw [anonymous, not_iff_not]
  | some sub =>
      have loggedIn : (∃ other, some sub = some other ∧ IsOwner unicode document other) ↔
          IsOwner unicode document sub := by simp
      simp only [if_neg others, not_not, loggedIn]
      by_cases privately : SaysPrivate unicode document <;> simp [privately]

/-- An item with a policy of its own, as the request schema allows. -/
def securePolicy : JsonObject :=
  ⟨[("id", .str "2c3d4e5f-aaaa-4bbb-8ccc-0123456789ab"), ("type", .arr [.str "adex:DataBank"]),
    ("accessPolicy", .str "SECURE"), ("ownerUserId", .str "11111111-2222-4333-8444-555555555555")]⟩

def someUser : AccessPolicyRequestDTO := ⟨some "99999999-2222-4888-8777-666666666666", some false⟩

theorem search_get_agree_openly :
    (Admits asciiEngine someUser (securePolicy.put "accessPolicy" (.str "OPEN")) ↔
      LetsGet asciiUnicode someUser (securePolicy.put "accessPolicy" (.str "OPEN"))) ↔
      WordsAgree asciiEngine asciiUnicode someUser (securePolicy.put "accessPolicy" (.str "OPEN")) :=
  search_get_agree_iff asciiEngine asciiUnicode someUser _ (by decide)

/-- The item is found by anonymous callers and lets every caller read it, but
nobody finds it after logging in. -/
theorem secure_policy_lost_by_login :
    Admits asciiEngine ⟨none, some false⟩ securePolicy ∧ LetsGet asciiUnicode someUser securePolicy ∧
      ¬Admits asciiEngine someUser securePolicy := by
  simp only [Admits, LetsGet]
  refine ⟨by decide +kernel, rfl, by decide +kernel⟩

end Tgdex.Properties
