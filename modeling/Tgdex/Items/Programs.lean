import Tgdex.Items.Controller

namespace Tgdex.Items

open Tgdex.Data Tgdex.Java Tgdex.Effects Tgdex.Elastic Tgdex.Query

/-! # The programs of the item handlers

What each handler comes to, once its arguments have been checked. -/

variable {config : Config} {caller : Caller} {method : Method} {body : Option JsonObject} {moment : Moment}

def entered (config : Config) (principal body : JsonObject) : JsonObject :=
  let orgName := nullable (principal.getString "organisation_name")
  let document := ((body.put "ownerUserId" (nullable (principal.getString "sub"))).put "department" orgName).put
    "uploadedBy" orgName
  (document.put "@context" (.str config.vocContext)).remove "httpMethod"

/-- The body with everything the controller and the validators put into it. -/
def submitted (config : Config) (principal body : JsonObject) (moment : Moment) : JsonObject :=
  setCommonFields (addId (entered config principal body) moment) moment

def validators (method : Method) : List (String × (JsonObject → Settled (Item × Statics) → Settled JsonObject)) :=
  [(itemTypeAiModel, uploadableResult itemTypeAiModel "Fail: AI Model item already exists" method),
   (itemTypeDataBank, uploadableResult itemTypeDataBank "Fail: DataBank item already exists" method),
   (itemTypeApps, appsResult method)]

/-- A create or update request that gets as far as its name lookup. -/
structure Submission (config : Config) (caller : Caller) (method : Method) (body : Option JsonObject)
    (moment : Moment) where
  principal : JsonObject
  given : JsonObject
  itemType : String
  result : JsonObject → Settled (Item × Statics) → Settled JsonObject
  refused : Option Throwable
  name : String
  token : checkIfTokenPresent caller = none
  role : verifyItemTypeAndRole config.unicode caller body = .ok none
  user : caller.user = some principal
  hasBody : body = some given
  typed : extractAndValidateItemType given = some itemType
  validator : (itemType, result) ∈ validators method
  decided : validateId (entered config principal given) = .ok refused
  named : (submitted config principal given moment).getString "name" = some name

namespace Submission

variable (submission : Submission config caller method body moment)

def document : JsonObject := submitted config submission.principal submission.given moment

def nameModel : QueryModel :=
  mustQuery [matchQuery "type" submission.itemType, matchQuery "name.keyword" submission.name]

def validated (settled : Settled (ElasticsearchResponse × Statics)) : Settled JsonObject :=
  settle submission.refused (submission.result submission.document (nameLookupResult settled))

def program : Handler :=
  (getSingleDocument submission.nameModel).bind fun settled =>
    onValidated config method (submission.validated settled)

end Submission

theorem getString_addId_of_valid (moment : Moment) {request : JsonObject} {refused : Option Throwable}
    (checked : validateId request = .ok refused) (accepted : refused = none) :
    ∃ id, (addId request moment).getString "id" = some id ∧ isValidUuid id = true := by
  by_cases present : request.containsKey "id" = true
  · simp only [validateId, present, if_true, bind_eq_ok, nonNull_eq_ok, pure, Except.pure, Except.ok.injEq] at checked
    obtain ⟨id, stored, decided⟩ := checked
    have valid : isValidUuid id = true := by
      by_contra invalid
      simp [invalid, accepted] at decided
    exact ⟨id, by simpa [addId, present] using stored, valid⟩
  · have generated : addId request moment = request.put "id" (.str moment.randomUuid) := by simp [addId, present]
    exact ⟨moment.randomUuid, by rw [generated]; exact JsonObject.getString_of_get? (JsonObject.get?_put_self _ _ _),
      moment.validUuid⟩

theorem get?_addId {request : JsonObject} {key : String} (other : key ≠ "id") :
    (addId request moment).get? key = request.get? key := by
  simp only [addId]
  split
  · rfl
  · exact JsonObject.get?_put_other _ _ other

theorem get?_setCommonFields {request : JsonObject} {key : String}
    (other : key ∉ ["itemStatus", "lastUpdated", "itemCreatedAt"]) :
    (setCommonFields request moment).get? key = request.get? key := by
  simp only [List.mem_cons, List.not_mem_nil, or_false, not_or] at other
  simp [setCommonFields, JsonObject.get?_put, other]

theorem Submission.checked (submission : Submission config caller method body moment)
    (accepted : submission.refused = none) :
    ∃ id, submission.document.getString "id" = some id ∧ isValidUuid id = true := by
  obtain ⟨id, stored, valid⟩ := getString_addId_of_valid moment submission.decided accepted
  exact ⟨id, (JsonObject.getString_congr (get?_setCommonFields (by decide))).trans stored, valid⟩

def Refuses (outcomes : List Outcome) : Prop := ∀ outcome ∈ outcomes, 400 ≤ outcome.status

/-- Some response reports a success. -/
def Succeeds (outcomes : List Outcome) : Prop := ∃ outcome ∈ outcomes, outcome.status < 400

theorem Refuses.not_succeeds {outcomes : List Outcome} (refuses : Refuses outcomes) : ¬Succeeds outcomes := by
  intro shown
  obtain ⟨outcome, member, success⟩ := shown
  exact absurd (refuses outcome member) (Nat.not_le_of_gt success)

theorem succeeds_of_statuses {outcomes : List Outcome} (statuses : outcomes.map Outcome.status = [200]) :
    Succeeds outcomes := by
  obtain ⟨outcome, member, status⟩ := List.mem_map.mp (statuses ▸ List.mem_singleton_self 200)
  exact ⟨outcome, member, by omega⟩

theorem succeeds_updated (held : Stays) (item : JsonObject) :
    Succeeds [sendSuccess held 200 "Success: Item updated successfully" item] :=
  ⟨_, List.mem_cons_self, by simp [sendSuccess, respond, Outcome.status]⟩

theorem refuses_single {outcome : Outcome} (failure : 400 ≤ outcome.status) : Refuses [outcome] := by
  intro other member
  rw [List.mem_singleton.mp member]
  exact failure

def RefusesOrSubmits (config : Config) (caller : Caller) (method : Method) (body : Option JsonObject)
    (moment : Moment) (handler : Handler) : Prop :=
  (∃ outcomes, handler = .done outcomes ∧ Refuses outcomes) ∨
    ∃ submission : Submission config caller method body moment, handler = submission.program

theorem refusesOrSubmits_single {outcome : Outcome} (failure : 400 ≤ outcome.status) :
    RefusesOrSubmits config caller method body moment (.done [outcome]) :=
  .inl ⟨_, rfl, refuses_single failure⟩

theorem refusesOrSubmits_orFail {attempt : Except Throwable Handler}
    (goes : ∀ handler, attempt = .ok handler → RefusesOrSubmits config caller method body moment handler) :
    RefusesOrSubmits config caller method body moment (orFail attempt) := by
  cases attempt with
  | error cause => exact refusesOrSubmits_single (by simp [Outcome.status])
  | ok handler => exact goes handler rfl

theorem checkIfTokenPresent_some {outcome : Outcome} (refused : checkIfTokenPresent caller = some outcome) :
    400 ≤ outcome.status := by
  simp only [checkIfTokenPresent] at refused
  split at refused
  · cases refused
    decide
  · cases refused

theorem verifyItemTypeAndRole_some {unicode : Unicode} {outcome : Outcome}
    (refused : verifyItemTypeAndRole unicode caller body = .ok (some outcome)) : 400 ≤ outcome.status := by
  simp only [verifyItemTypeAndRole] at refused
  split at refused
  · cases refused
    decide
  simp only [bind_eq_ok] at refused
  obtain ⟨access, -, refused⟩ := refused
  split at refused
  · cases refused
    decide
  split at refused
  · cases refused
    decide
  simp only [bind_eq_ok] at refused
  obtain ⟨_, -, _, -, types, -, refused⟩ := refused
  split at refused
  · cases refused
  simp only [bind_eq_ok] at refused
  obtain ⟨first, -, userRoles, -, refused⟩ := refused
  split at refused
  · cases refused
    simp [Outcome.status]
  simp only [bind_eq_ok] at refused
  obtain ⟨_, -, allowed, -, refused⟩ := refused
  split at refused
  · cases refused
  · cases refused
    simp [Outcome.status]

theorem some_map_eq_ok {α : Type} {attempt : Except Throwable α} {value : α} :
    some <$> attempt = .ok (some value) ↔ attempt = .ok value := by
  cases attempt <;> simp

theorem validateItemExistence_eq_ok {itemType : String} {document : JsonObject} {validation : Future JsonObject}
    (chosen : validateItemExistence itemType document method moment = .ok (some validation)) :
    isCatalogueType itemType = true ∧ ∃ result, (itemType, result) ∈ validators method ∧
      validateNamed itemType result document moment = .ok validation := by
  simp only [validateItemExistence] at chosen
  split at chosen
  · rename_i aiModel
    subst aiModel
    exact ⟨rfl, _, by simp [validators], some_map_eq_ok.mp chosen⟩
  · split at chosen
    · rename_i dataBank
      subst dataBank
      exact ⟨rfl, _, by simp [validators], some_map_eq_ok.mp chosen⟩
    · split at chosen
      · rename_i apps
        subst apps
        exact ⟨rfl, _, by simp [validators], some_map_eq_ok.mp chosen⟩
      · cases chosen

theorem validateNamed_eq_ok {itemType : String} {result : JsonObject → Settled (Item × Statics) → Settled JsonObject}
    {document : JsonObject} {validation : Future JsonObject}
    (validated : validateNamed itemType result document moment = .ok validation) :
    ∃ refused name, validateId document = .ok refused ∧
      (setCommonFields (addId document moment) moment).getString "name" = some name ∧
      validation = (getSingleDocument (mustQuery [matchQuery "type" itemType, matchQuery "name.keyword" name])).bind
        fun settled => .done (settle refused
          (result (setCommonFields (addId document moment) moment) (nameLookupResult settled))) := by
  simp only [validateNamed, itemWithTheNameExists, buildGetItemWithNameExistsQuery, bind_eq_ok, nonNull_eq_ok, pure,
    Except.pure, Except.ok.injEq] at validated
  obtain ⟨refused, checked, _, ⟨_, ⟨name, named, rfl⟩, rfl⟩, rfl⟩ := validated
  refine ⟨refused, name, checked, named, ?_⟩
  rw [Task.bind_assoc]
  rfl

theorem injectKeycloakInfo_eq_ok {given document : JsonObject} {itemType : String}
    (catalogue : isCatalogueType itemType = true)
    (injected : injectKeycloakInfoIfApplicable caller given itemType = .ok document) :
    ∃ principal, caller.user = some principal ∧
      document = ((given.put "ownerUserId" (nullable (principal.getString "sub"))).put "department"
        (nullable (principal.getString "organisation_name"))).put "uploadedBy"
        (nullable (principal.getString "organisation_name")) := by
  simp only [injectKeycloakInfoIfApplicable, catalogue, if_true, bind_eq_ok, nonNull_eq_ok, pure, Except.pure,
    Except.ok.injEq] at injected
  obtain ⟨principal, user, rfl⟩ := injected
  exact ⟨principal, user, rfl⟩

theorem refusesOrSubmits_handle {handler : Handler} (token : checkIfTokenPresent caller = none)
    (role : verifyItemTypeAndRole config.unicode caller body = .ok none)
    (handled : handleCreateOrUpdateItem config caller method body moment = .ok handler) :
    RefusesOrSubmits config caller method body moment handler := by
  simp only [handleCreateOrUpdateItem, bind_eq_ok, nonNull_eq_ok] at handled
  obtain ⟨given, hasBody, handled⟩ := handled
  split at handled
  · cases handled
    exact refusesOrSubmits_single (by decide)
  · rename_i itemType typed
    simp only [bind_eq_ok] at handled
    obtain ⟨document, injected, validation, chosen, handled⟩ := handled
    split at handled
    · cases handled
      exact refusesOrSubmits_single (Nat.le_refl 400)
    · rename_i validation
      obtain ⟨catalogue, result, validator, validated⟩ := validateItemExistence_eq_ok chosen
      obtain ⟨principal, user, rfl⟩ := injectKeycloakInfo_eq_ok catalogue injected
      obtain ⟨refused, name, decided, named, rfl⟩ := validateNamed_eq_ok validated
      cases handled
      refine .inr ⟨⟨principal, given, itemType, result, refused, name, token, role, user, hasBody, typed, validator,
        decided, named⟩, ?_⟩
      rw [Task.bind_assoc]
      rfl

theorem createOrUpdate_cases (config : Config) (caller : Caller) (method : Method) (body : Option JsonObject)
    (moment : Moment) :
    RefusesOrSubmits config caller method body moment (createOrUpdate config caller method body moment) := by
  simp only [createOrUpdate]
  cases token : checkIfTokenPresent caller with
  | some outcome => exact refusesOrSubmits_single (checkIfTokenPresent_some token)
  | none =>
      refine refusesOrSubmits_orFail fun handler checked => ?_
      simp only [bind_eq_ok, pure, Except.pure, Except.ok.injEq] at checked
      obtain ⟨guard, role, rfl⟩ := checked
      cases guard with
      | some outcome => exact refusesOrSubmits_single (verifyItemTypeAndRole_some role)
      | none => exact refusesOrSubmits_orFail fun handler handled => refusesOrSubmits_handle token role handled

theorem validateItemExistence_of_validator (moment : Moment) {itemType : String}
    {result : JsonObject → Settled (Item × Statics) → Settled JsonObject}
    (validator : (itemType, result) ∈ validators method) (document : JsonObject) :
    isCatalogueType itemType = true ∧ validateItemExistence itemType document method moment =
      some <$> validateNamed itemType result document moment := by
  simp only [validators, List.mem_cons, Prod.mk.injEq, List.not_mem_nil, or_false] at validator
  rcases validator with ⟨rfl, rfl⟩ | ⟨rfl, rfl⟩ | ⟨rfl, rfl⟩ <;> exact ⟨rfl, rfl⟩

theorem validateNamed_of_named {itemType name : String}
    {result : JsonObject → Settled (Item × Statics) → Settled JsonObject} {document : JsonObject}
    {refused : Option Throwable} (decided : validateId document = .ok refused)
    (named : (setCommonFields (addId document moment) moment).getString "name" = some name) :
    validateNamed itemType result document moment = .ok
      ((getSingleDocument (mustQuery [matchQuery "type" itemType, matchQuery "name.keyword" name])).bind
        fun settled => .done (settle refused
          (result (setCommonFields (addId document moment) moment) (nameLookupResult settled)))) := by
  simp only [validateNamed, itemWithTheNameExists, buildGetItemWithNameExistsQuery, decided, named, bind_eq_ok,
    nonNull_eq_ok, pure, Except.pure, Except.ok.injEq]
  refine ⟨refused, rfl, _, ⟨_, ⟨name, rfl, rfl⟩, rfl⟩, ?_⟩
  rw [Task.bind_assoc]
  rfl

theorem injectKeycloakInfo_eq {given principal : JsonObject} {itemType : String}
    (catalogue : isCatalogueType itemType = true) (user : caller.user = some principal) :
    injectKeycloakInfoIfApplicable caller given itemType = .ok
      (((given.put "ownerUserId" (nullable (principal.getString "sub"))).put "department"
        (nullable (principal.getString "organisation_name"))).put "uploadedBy"
        (nullable (principal.getString "organisation_name"))) := by
  simp only [injectKeycloakInfoIfApplicable, catalogue, if_true, user]
  rfl

/-- A body whose type has a validator is handed to that validator. -/
theorem handleCreateOrUpdateItem_of_typed {given principal : JsonObject} {itemType : String}
    {result : JsonObject → Settled (Item × Statics) → Settled JsonObject} (user : caller.user = some principal)
    (typed : extractAndValidateItemType given = some itemType) (validator : (itemType, result) ∈ validators method) :
    handleCreateOrUpdateItem config caller method (some given) moment =
      (validateNamed itemType result (entered config principal given) moment).map
        fun validation => validation.bind (onValidated config method) := by
  obtain ⟨catalogue, chosen⟩ :=
    validateItemExistence_of_validator moment validator (entered config principal given)
  simp only [handleCreateOrUpdateItem, nonNull, bind, Except.bind, typed, injectKeycloakInfo_eq catalogue user]
  simp only [entered] at chosen ⊢
  rw [chosen]
  cases validateNamed itemType result _ moment <;> rfl

theorem handleCreateOrUpdateItem_eq (submission : Submission config caller method body moment) :
    handleCreateOrUpdateItem config caller method body moment = .ok submission.program := by
  obtain ⟨principal, given, itemType, result, refused, name, token, role, user, rfl, typed, validator, decided,
    named⟩ := submission
  rw [handleCreateOrUpdateItem_of_typed user typed validator, validateNamed_of_named decided named, Except.map,
    Task.bind_assoc]
  rfl

theorem createOrUpdate_eq (submission : Submission config caller method body moment) :
    createOrUpdate config caller method body moment = submission.program := by
  simp only [createOrUpdate, submission.token, guarded, submission.role, handleCreateOrUpdateItem_eq submission]
  rfl

theorem orPending_success {attempt : Except Throwable (Settled JsonObject)} {request : JsonObject}
    (success : orPending attempt = .success request) : attempt = .ok (.success request) := by
  cases attempt with
  | error cause => cases success
  | ok settled => exact congrArg Except.ok success

theorem onLookupFailure_success {cause : Throwable} {notFound : Settled JsonObject} {request : JsonObject}
    (success : onLookupFailure cause notFound = .success request) :
    cause.getMessage = detailItemNotFound ∧ notFound = .success request := by
  simp only [onLookupFailure] at success
  split at success
  · rename_i absent
    exact ⟨absent, success⟩
  · cases success

/-- Everything a validator of AI models and data banks can make of a body. -/
inductive Uploadable (document : JsonObject) : Method → Settled (Item × Statics) → JsonObject → Prop
  | created {settled : Settled (Item × Statics)} (uploaded : Bool) :
      Uploadable document .post settled (putStatus document uploaded (some pending))
  | unnamed {cause : Throwable} (absent : cause.getMessage = detailItemNotFound) :
      Uploadable document .put (.failure cause) document
  | renamed {item : Item} {statics : Statics} (uploaded : Bool) :
      Uploadable document .put (.success (item, statics))
        (putStatus document uploaded (extractPublishStatusFromES item.toJson))

theorem uploadable_of_success {itemType alreadyExists : String} {document request : JsonObject}
    {settled : Settled (Item × Statics)}
    (success : uploadableResult itemType alreadyExists method document settled = .success request) :
    Uploadable document method settled request := by
  cases settled with
  | pending => cases success
  | failure cause =>
      obtain ⟨absent, notFound⟩ := onLookupFailure_success success
      have attempt := orPending_success notFound
      cases method with
      | put =>
          cases attempt
          exact .unnamed absent
      | post =>
          simp only [whenNotFound, bind_eq_ok, pure, Except.pure, Except.ok.injEq, Settled.success.injEq] at attempt
          obtain ⟨uploaded, -, rfl⟩ := attempt
          exact .created uploaded
  | success found =>
      obtain ⟨item, statics⟩ := found
      have attempt := orPending_success success
      simp only [whenFound, bind_eq_ok] at attempt
      obtain ⟨sameType, -, attempt⟩ := attempt
      cases method with
      | put =>
          simp only [bind_eq_ok, pure, Except.pure, Except.ok.injEq, Settled.success.injEq] at attempt
          obtain ⟨uploaded, -, rfl⟩ := attempt
          exact .renamed _
      | post =>
          cases sameType with
          | true => cases attempt
          | false =>
              simp only [Bool.false_eq_true, if_false, bind_eq_ok, pure, Except.pure, Except.ok.injEq,
                Settled.success.injEq] at attempt
              obtain ⟨uploaded, -, rfl⟩ := attempt
              exact .created uploaded

theorem appsResult_success {document request : JsonObject} {settled : Settled (Item × Statics)}
    (success : appsResult method document settled = .success request) : request = document := by
  cases settled with
  | pending => cases success
  | failure cause =>
      have same := (onLookupFailure_success success).2
      cases same
      rfl
  | success found =>
      simp only [appsResult] at success
      split at success
      · cases success
      · cases success
        rfl

/-- A validator is that of an app or one of the two that look at the upload. -/
theorem validator_cases {itemType : String} {result : JsonObject → Settled (Item × Statics) → Settled JsonObject}
    (validator : (itemType, result) ∈ validators method) :
    (itemType ≠ itemTypeApps ∧ ∃ alreadyExists, result = uploadableResult itemType alreadyExists method) ∨
      (itemType = itemTypeApps ∧ result = appsResult method) := by
  simp only [validators, List.mem_cons, Prod.mk.injEq, List.not_mem_nil, or_false] at validator
  rcases validator with ⟨rfl, chosen⟩ | ⟨rfl, chosen⟩ | apps
  · exact .inl ⟨by decide, _, chosen⟩
  · exact .inl ⟨by decide, _, chosen⟩
  · exact .inr apps

theorem validator_result {itemType : String} {result : JsonObject → Settled (Item × Statics) → Settled JsonObject}
    (validator : (itemType, result) ∈ validators method) {document request : JsonObject}
    {settled : Settled (Item × Statics)} (success : result document settled = .success request) :
    request = document ∨ ∃ uploaded status, request = putStatus document uploaded status := by
  rcases validator_cases validator with ⟨-, alreadyExists, rfl⟩ | ⟨-, rfl⟩
  · cases uploadable_of_success success with
    | created uploaded => exact .inr ⟨uploaded, _, rfl⟩
    | unnamed absent => exact .inl rfl
    | renamed uploaded => exact .inr ⟨uploaded, _, rfl⟩
  · exact .inl (appsResult_success success)

theorem validator_failure {itemType : String} {result : JsonObject → Settled (Item × Statics) → Settled JsonObject}
    (validator : (itemType, result) ∈ validators method) {document request : JsonObject} {cause : Throwable}
    (success : result document (.failure cause) = .success request) : cause.getMessage = detailItemNotFound := by
  rcases validator_cases validator with ⟨-, alreadyExists, rfl⟩ | ⟨-, rfl⟩
  · exact (onLookupFailure_success success).1
  · exact (onLookupFailure_success success).1

/-- A create that its validator lets through although an item is found. -/
theorem validator_found {itemType : String} {result : JsonObject → Settled (Item × Statics) → Settled JsonObject}
    (validator : (itemType, result) ∈ validators .post) {document request : JsonObject} {item : Item}
    {statics : Statics} (success : result document (.success (item, statics)) = .success request) :
    (itemType = itemTypeApps ∧ statics.totalHits = 0) ∨
      (itemType ≠ itemTypeApps ∧ returnTypeContains item.toJson itemType = .ok false) := by
  rcases validator_cases validator with ⟨notApps, alreadyExists, rfl⟩ | ⟨apps, rfl⟩
  · have attempt := orPending_success success
    simp only [whenFound, bind_eq_ok] at attempt
    obtain ⟨sameType, mentioned, attempt⟩ := attempt
    cases sameType with
    | true => cases attempt
    | false => exact .inr ⟨notApps, mentioned⟩
  · simp only [appsResult, true_and] at success
    split at success
    · cases success
    · rename_i none
      exact .inl ⟨apps, Nat.eq_zero_of_not_pos none⟩

theorem settle_success {α : Type} {refused : Option Throwable} {settled : Settled α} {value : α}
    (success : settle refused settled = .success value) : refused = none ∧ settled = .success value := by
  cases refused with
  | none => exact ⟨rfl, success⟩
  | some cause => cases success

theorem get?_putStatus {document : JsonObject} {uploaded : Bool} {status : Option String} {key : String}
    (other : key ∉ ["dataUploadStatus", "publishStatus"]) :
    (putStatus document uploaded status).get? key = document.get? key := by
  simp only [List.mem_cons, List.not_mem_nil, or_false, not_or] at other
  simp [putStatus, JsonObject.get?_put, other]

def writtenKeys : List String :=
  ["ownerUserId", "department", "uploadedBy", "@context", "httpMethod", "id", "itemStatus", "lastUpdated",
   "itemCreatedAt"]

theorem get?_submitted {principal given : JsonObject} {key : String} (other : key ∉ writtenKeys) :
    (submitted config principal given moment).get? key = given.get? key := by
  simp only [writtenKeys, List.mem_cons, List.not_mem_nil, or_false, not_or] at other
  obtain ⟨owner, department, uploadedBy, context, httpMethod, id, status, updated, created⟩ := other
  rw [submitted, get?_setCommonFields (by simp [status, updated, created]), get?_addId id]
  simp [entered, JsonObject.get?_put, JsonObject.get?_remove, owner, department, uploadedBy, context, httpMethod]

theorem owner_submitted (config : Config) (principal given : JsonObject) (moment : Moment) :
    (submitted config principal given moment).get? "ownerUserId" = some (nullable (principal.getString "sub")) := by
  rw [submitted, get?_setCommonFields (by decide), get?_addId (by decide)]
  simp [entered, JsonObject.get?_put, JsonObject.get?_remove]

/-- An item as a submission hands it to the service. -/
structure Submitted (principal given : JsonObject) (item : Item) (id : String) : Prop where
  getId : item.getId = some id
  valid : isValidUuid id = true
  id : item.toJson.get? "id" = some (.str id)
  owner : item.toJson.get? "ownerUserId" = some (nullable (principal.getString "sub"))
  policy : item.toJson.get? "accessPolicy" = some (nullable (given.getString "accessPolicy"))

theorem Submission.get?_request {submission : Submission config caller method body moment}
    {settled : Settled (ElasticsearchResponse × Statics)} {request : JsonObject}
    (success : submission.validated settled = .success request) {key : String}
    (other : key ∉ ["dataUploadStatus", "publishStatus"]) : request.get? key = submission.document.get? key := by
  rcases validator_result submission.validator (settle_success success).2 with rfl | ⟨uploaded, status, rfl⟩
  · rfl
  · exact get?_putStatus other

theorem get?_document_id (submission : Submission config caller method body moment) :
    submission.document.get? "id" = (addId submission.given moment).get? "id" := by
  have same : (entered config submission.principal submission.given).get? "id" = submission.given.get? "id" := by
    simp [entered, JsonObject.get?_put, JsonObject.get?_remove]
  rw [Submission.document, submitted, get?_setCommonFields (by decide)]
  unfold addId JsonObject.containsKey
  rw [same]
  split
  · exact same
  · rw [JsonObject.get?_put_self, JsonObject.get?_put_self]

theorem Submission.submitted_item {submission : Submission config caller method body moment}
    {settled : Settled (ElasticsearchResponse × Statics)} {request : JsonObject} {item : Item}
    (success : submission.validated settled = .success request) (parsed : parse request = .ok item) :
    ∃ id, (addId submission.given moment).getString "id" = some id ∧
      Submitted submission.principal submission.given item id := by
  obtain ⟨id, stored, valid⟩ := submission.checked (settle_success success).1
  obtain ⟨readers, known, read⟩ := class_of_parse parsed
  have requestId : request.getString "id" = some id :=
    (JsonObject.getString_congr (submission.get?_request success (by decide))).trans stored
  refine ⟨id, (JsonObject.getString_congr (get?_document_id submission)).symm.trans stored,
    (getId_of_class known read).trans requestId, valid, ?_, ?_, ?_⟩
  · rw [(toJson_text read (classes_read_text readers known "id" (by simp))).1, requestId]
    rfl
  · rw [toJson_additional read (classes_keep readers known "ownerUserId" (by simp)),
      submission.get?_request success (by decide)]
    exact owner_submitted config submission.principal submission.given moment
  · rw [(toJson_text read (classes_read_text readers known "accessPolicy" (by simp))).1]
    have policy : request.get? "accessPolicy" = submission.given.get? "accessPolicy" :=
      (submission.get?_request success (by decide)).trans (get?_submitted (by decide))
    rw [JsonObject.getString_congr policy]

theorem nameLookupResult_cases (response : ElasticsearchResponse) :
    (∃ item, ∀ statics, nameLookupResult (.success (response, statics)) = .success (item, statics)) ∨
      ∃ cause, ∀ statics, nameLookupResult (.success (response, statics)) = .failure cause := by
  cases source : response.source with
  | none => exact .inr ⟨.runtime detailItemNotFound, fun statics => by simp only [nameLookupResult, source]⟩
  | some document =>
      by_cases empty : document.fields.isEmpty = true
      · refine .inr ⟨.runtime detailItemNotFound, fun statics => ?_⟩
        simp only [nameLookupResult, source, empty, if_true]
      · cases read : from_ document with
        | error cause => exact .inr ⟨_, fun statics => by simp only [nameLookupResult, source, empty, read]; rfl⟩
        | ok item => exact .inl ⟨item, fun statics => by simp only [nameLookupResult, source, empty, read]; rfl⟩

/-- Of the static fields the validation depends on what its result takes from them. -/
theorem Submission.validated_congr (submission : Submission config caller method body moment)
    (response : ElasticsearchResponse) {statics other : Statics}
    (agree : ∀ document item, submission.result document (.success (item, statics)) =
      submission.result document (.success (item, other))) :
    submission.validated (.success (response, statics)) = submission.validated (.success (response, other)) := by
  simp only [Submission.validated]
  rcases nameLookupResult_cases response with ⟨item, looked⟩ | ⟨cause, looked⟩
  · rw [looked, looked, agree]
  · rw [looked, looked]

/-- The validators look at the count of the name lookup only. -/
theorem Submission.validated_byCount (submission : Submission config caller method body moment)
    (response : ElasticsearchResponse) {statics other : Statics} (same : statics.totalHits = other.totalHits) :
    submission.validated (.success (response, statics)) = submission.validated (.success (response, other)) := by
  refine submission.validated_congr response fun document item => ?_
  rcases validator_cases submission.validator with ⟨-, alreadyExists, chosen⟩ | ⟨-, chosen⟩
  · rw [chosen]
    rfl
  · simp only [chosen, appsResult, same]

theorem refuses_handleValidationFailure (cause : Throwable) : Refuses [handleValidationFailure config.unicode cause] := by
  apply refuses_single
  simp only [handleValidationFailure]
  split <;> exact Nat.le_refl 400

theorem onValidated_cases (config : Config) (method : Method) (settled : Settled JsonObject) :
    (∃ outcomes, onValidated config method settled = .done outcomes ∧ Refuses outcomes) ∨
      ∃ request item handler, settled = .success request ∧ parse request = .ok item ∧
        storeItem config method item = .ok handler ∧ onValidated config method settled = handler := by
  cases settled with
  | failure cause => exact .inl ⟨_, rfl, refuses_handleValidationFailure cause⟩
  | pending => exact .inl ⟨_, rfl, by simp [Refuses]⟩
  | success request =>
      simp only [onValidated, processItemCreationOrUpdate]
      split
      · rename_i handler stored
        obtain ⟨item, parsed, stored⟩ := bind_eq_ok.mp stored
        exact .inr ⟨request, item, handler, rfl, parsed, stored, rfl⟩
      · exact .inl ⟨_, rfl, refuses_single (Nat.le_refl 400)⟩

def updateProgram (config : Config) (item : Item) (id type : String) : Future Unit :=
  Future.compose (getSingleDocument (updateQuery id type)) fun (_, statics) =>
    if statics.totalHits = 0 then Future.failed (.runtime "Item not found for update")
    else updateDocument config.wire id item.toJson

theorem updateItem_cases {item : Item} {update : Future Unit} (updates : updateItem config item = .ok update) :
    update = Future.failed idOrTypeMissing ∨
      ∃ types id type, item.getType = .ok (some types) ∧ firstText types = .ok (some type) ∧
        item.getId = some id ∧ isBlank type = false ∧ update = updateProgram config item id type := by
  simp only [updateItem, bind_eq_ok, nonNull_eq_ok] at updates
  obtain ⟨_, read, types, rfl, first, firstRead, updates⟩ := updates
  split at updates
  · rename_i id type given
    split at updates
    · cases updates
      exact .inl rfl
    · rename_i visible
      simp only [Bool.or_eq_true, not_or, Bool.not_eq_true] at visible
      cases updates
      exact .inr ⟨types, id, type, read, firstRead, given, visible.2, rfl⟩
  · cases updates
    exact .inl rfl

theorem updateItem_eq {item : Item} {types : List Json} {id type : String} (getType : item.getType = .ok (some types))
    (firstType : firstText types = .ok (some type)) (getId : item.getId = some id) (visible : isBlank id = false)
    (typed : isBlank type = false) : updateItem config item = .ok (updateProgram config item id type) := by
  simp only [updateItem, bind_eq_ok, nonNull_eq_ok]
  refine ⟨_, getType, types, rfl, _, firstType, ?_⟩
  simp only [getId, visible, typed]
  rfl

theorem storeItem_cases {item : Item} {handler : Handler} (stored : storeItem config method item = .ok handler) :
    (method = .post ∧ handler = (createItem config item).bind fun settled =>
      .done (writeOutcome config.held 201 "Success: Item created" item settled)) ∨
      ∃ update, method = .put ∧ updateItem config item = .ok update ∧
        handler = update.bind fun settled =>
          .done (writeOutcome config.held 200 "Success: Item updated successfully" item settled) := by
  cases method with
  | post =>
      cases stored
      exact .inl ⟨rfl, rfl⟩
  | put =>
      simp only [storeItem, bind_eq_ok, pure, Except.pure, Except.ok.injEq] at stored
      obtain ⟨update, updates, rfl⟩ := stored
      exact .inr ⟨update, rfl, updates, rfl⟩

end Tgdex.Items
