import Tgdex.Search.Controller
import Tgdex.Properties.ItemTypes

namespace Tgdex.Properties

open Tgdex.Data Tgdex.Java Tgdex.Effects Tgdex.Elastic Tgdex.Query Tgdex.Items Tgdex.Search

/-! # How often a request is answered -/

/-- Whatever its calls are answered with, the handler answers exactly once. -/
def AnsweredOnce (handler : Handler) : Prop := ∀ outcomes, handler.Ends outcomes → outcomes.length = 1

theorem answeredOnce_done {outcomes : List Outcome} : AnsweredOnce (.done outcomes) ↔ outcomes.length = 1 :=
  ⟨fun once => once outcomes rfl, fun one other same => by rw [← (same : outcomes = other), one]⟩

theorem answeredOnce_bind {α : Type} {future : Future α} {next : Settled α → Handler} (settles : future.Settles)
    (each : ∀ settled, settled ≠ .pending → AnsweredOnce (next settled)) : AnsweredOnce (future.bind next) := by
  intro outcomes ends
  obtain ⟨settled, reached, goes⟩ := Task.ends_bind.mp ends
  exact each settled (settles settled reached) outcomes goes

section

variable {unicode : Unicode} {isAssetSearch : Bool} {context : RoutingContext} {body : JsonObject}

theorem settles_postSearch (request : QueryDecoderRequestDTO) : (postSearch unicode request).Settles := by
  simp only [postSearch]
  split
  · exact Future.settles_proxied _
  · exact Future.settles_failed _

theorem answeredOnce_handleSearch (request : QueryDecoderRequestDTO) :
    AnsweredOnce (handleSearch unicode request) := by
  refine answeredOnce_bind (settles_postSearch request) fun settled ended => answeredOnce_done.mpr ?_
  cases settled with
  | success found =>
      simp only [searchOutcome]
      split <;> rfl
  | failure cause => rfl
  | pending => contradiction

/-- The builder's exceptions are the only way to lose a search. -/
theorem answeredOnce_answerSearch :
    AnsweredOnce (answerSearch unicode context isAssetSearch) ↔
      ∃ request, build unicode isAssetSearch false context = .ok request := by
  simp only [answerSearch]
  cases build unicode isAssetSearch false context with
  | ok request => simp [answeredOnce_handleSearch]
  | error cause => simp [answeredOnce_done]

/-- A search, or a search of the caller's assets, is answered once exactly when
the builder finds what it needs; otherwise it is never answered. -/
theorem search_answered_once_iff (given : context.body = some body) :
    (admitsSearch body = true →
      (AnsweredOnce (SearchController.handleSearch unicode context) ↔ Buildable unicode context body)) ∧
    (admitsCriteria body = true →
      (AnsweredOnce (SearchController.handleAsset unicode context) ↔ Buildable unicode context body)) := by
  refine ⟨fun admitted => ?_, fun admitted => ?_⟩
  · rw [SearchController.handleSearch, answeredOnce_answerSearch]
    exact exists_build_iff (readable_of_admitsSearch admitted) given
  · rw [SearchController.handleAsset, answeredOnce_answerSearch]
    exact exists_build_iff (readable_of_admitsCriteria admitted) given

end

def textRequest (q : String) (sort : Option String) : RoutingContext where
  body := some ⟨[("q", .str q)]⟩
  sort := sort

theorem search_answered_once_sat :
    admitsSearch ⟨[("q", .str "sat")]⟩ = true ∧
      (AnsweredOnce (SearchController.handleSearch asciiUnicode (textRequest "sat" none)) ↔
        Buildable asciiUnicode (textRequest "sat" none) ⟨[("q", .str "sat")]⟩) := by
  have admitted : admitsSearch ⟨[("q", .str "sat")]⟩ = true := by decide
  exact ⟨admitted, (search_answered_once_iff rfl).1 admitted⟩

/-- A sort parameter without a direction is admitted, and the request is left
without an answer. -/
theorem unsorted_search_never_answered :
    admitsSearch ⟨[("q", .str "sat")]⟩ = true ∧
      SearchController.handleSearch asciiUnicode (textRequest "sat" (some "name")) = .done [] ∧
      ¬AnsweredOnce (SearchController.handleSearch asciiUnicode (textRequest "sat" (some "name"))) := by
  have lost : SearchController.handleSearch asciiUnicode (textRequest "sat" (some "name")) = .done [] := rfl
  refine ⟨by decide, lost, ?_⟩
  rw [lost, answeredOnce_done]
  decide

section

variable {config : Config} {caller : Caller} {method : Method} {body principal : JsonObject} {moment : Moment}

theorem settles_createItem (item : Item) : (createItem config item).Settles := by
  simp only [createItem]
  split
  · exact Future.settles_failed _
  · split
    · exact Future.settles_failed _
    · refine Future.settles_compose (Future.settles_proxied _) fun found => ?_
      split
      · exact Future.settles_failed _
      · exact Future.settles_proxied _

theorem settles_updateItem {item : Item} {update : Future Unit} (updates : updateItem config item = .ok update) :
    update.Settles := by
  rcases updateItem_cases updates with rfl | ⟨types, id, type, -, -, -, -, rfl⟩
  · exact Future.settles_failed _
  · refine Future.settles_compose (Future.settles_proxied _) fun found => ?_
    by_cases none : found.2.totalHits = 0
    · simp only [none, if_true]
      exact Future.settles_failed _
    · simp only [none, if_false]
      exact Future.settles_proxied _

theorem answeredOnce_write {held : Stays} {status : Nat} {detail : String} {item : Item} {write : Future Unit}
    (settles : write.Settles) :
    AnsweredOnce (write.bind fun settled => .done (writeOutcome held status detail item settled)) := by
  refine answeredOnce_bind settles fun settled ended => answeredOnce_done.mpr ?_
  cases settled with
  | success done => rfl
  | failure cause => rfl
  | pending => contradiction

theorem answeredOnce_processItemCreationOrUpdate (request : JsonObject) :
    AnsweredOnce (processItemCreationOrUpdate config method request) := by
  simp only [processItemCreationOrUpdate]
  split
  · rename_i handler stored
    obtain ⟨item, -, stored⟩ := bind_eq_ok.mp stored
    rcases storeItem_cases stored with ⟨-, rfl⟩ | ⟨update, -, updates, rfl⟩
    · exact answeredOnce_write (settles_createItem item)
    · exact answeredOnce_write (settles_updateItem updates)
  · exact answeredOnce_done.mpr rfl

theorem answeredOnce_onValidated {settled : Settled JsonObject} (ended : settled ≠ .pending) :
    AnsweredOnce (onValidated config method settled) := by
  cases settled with
  | success request => exact answeredOnce_processItemCreationOrUpdate request
  | failure cause => exact answeredOnce_done.mpr rfl
  | pending => contradiction

theorem exists_mediaUrlPresent {request : JsonObject} :
    (∃ present, mediaUrlPresent request = .ok present) ↔ request.get? "mediaURL" ≠ some .null := by
  cases stored : request.get? "mediaURL" with
  | none => simp [mediaUrlPresent, JsonObject.containsKey, stored, pure, Except.pure]
  | some value =>
      cases value <;> simp [mediaUrlPresent, JsonObject.containsKey, JsonObject.getString, stored, nonNull, bind,
        Except.bind, pure, Except.pure]

theorem exists_returnTypeContains {document : JsonObject} {item : Item} (read : from_ document = .ok item)
    (itemType : String) : ∃ contained, returnTypeContains item.toJson itemType = .ok contained := by
  obtain ⟨readers, known, reads⟩ := class_of_from read
  simp only [from_, bind_eq_ok, nonNull_eq_ok] at read
  obtain ⟨_, stored, types, rfl, -⟩ := read
  have written := (toJson_type known reads stored).1
  simp only [returnTypeContains, JsonObject.getJsonArray_eq_ok.mpr written]
  exact ⟨_, rfl⟩

theorem item_of_nameLookup {settled : Settled (ElasticsearchResponse × Statics)} {item : Item} {statics : Statics}
    (found : nameLookupResult settled = .success (item, statics)) : ∃ document, from_ document = .ok item := by
  cases settled with
  | failure cause => cases found
  | pending => cases found
  | success answer =>
      simp only [nameLookupResult] at found
      split at found
      · cases found
      · split at found
        · cases found
        · split at found
          · rename_i read
            cases found
            exact ⟨_, read⟩
          · cases found

theorem nameLookup_ended {settled : Settled (ElasticsearchResponse × Statics)} (ended : settled ≠ .pending) :
    nameLookupResult settled ≠ .pending := by
  cases settled with
  | failure cause => simp [nameLookupResult]
  | pending => contradiction
  | success answer =>
      simp only [nameLookupResult]
      repeat' split
      all_goals simp

theorem uploadableResult_ended {itemType alreadyExists : String} {request : JsonObject}
    (readable : request.get? "mediaURL" ≠ some .null) {settled : Settled (ElasticsearchResponse × Statics)}
    (ended : settled ≠ .pending) :
    uploadableResult itemType alreadyExists method request (nameLookupResult settled) ≠ .pending := by
  obtain ⟨present, read⟩ := exists_mediaUrlPresent.mpr readable
  cases looked : nameLookupResult settled with
  | pending => exact absurd looked (nameLookup_ended ended)
  | failure cause =>
      simp only [uploadableResult, onLookupFailure]
      split
      · cases method <;> simp [whenNotFound, read, orPending, bind, Except.bind, pure, Except.pure]
      · simp
  | success found =>
      obtain ⟨item, statics⟩ := found
      obtain ⟨document, built⟩ := item_of_nameLookup looked
      obtain ⟨contained, mentioned⟩ := exists_returnTypeContains built itemType
      simp only [uploadableResult, whenFound, mentioned, read, bind, Except.bind, pure, Except.pure]
      cases method <;> cases contained <;> simp [orPending]

theorem appsResult_ended {request : JsonObject} {settled : Settled (ElasticsearchResponse × Statics)}
    (ended : settled ≠ .pending) : appsResult method request (nameLookupResult settled) ≠ .pending := by
  cases looked : nameLookupResult settled with
  | pending => exact absurd looked (nameLookup_ended ended)
  | failure cause =>
      simp only [appsResult, onLookupFailure]
      split <;> simp
  | success found =>
      simp only [appsResult]
      split <;> simp

/-- Of the known types the body names this one only, however often. -/
def NamesOne (body : JsonObject) (type : ItemType) : Prop :=
  ∃ types, body.get? "type" = some (.arr types) ∧ ∀ known ∈ itemTypes, .str known ∈ types ↔ known = type.typeValue

def itemHandler (config : Config) (caller : Caller) (method : Method) (body : JsonObject) (moment : Moment) : Handler :=
  orFail (handleCreateOrUpdateItem config caller method (some body) moment)

theorem extracted_of_namesOne {type : ItemType} (one : NamesOne body type) :
    extractAndValidateItemType body = some type.typeValue := by
  obtain ⟨types, stored, listed⟩ := one
  have agree : itemTypes.filter (containsText types) = itemTypes.filter (fun known => known == type.typeValue) := by
    refine List.filter_congr fun known member => ?_
    rw [Bool.eq_iff_iff, containsText_iff, listed known member, beq_iff_eq]
  have single : itemTypes.filter (fun known => known == type.typeValue) = [type.typeValue] := by
    cases type <;> decide
  simp only [extractAndValidateItemType, JsonObject.getJsonArray_eq_ok.mpr stored, agree, single]
  rfl

def validatorResult (method : Method) : ItemType → JsonObject → Settled (Item × Statics) → Settled JsonObject
  | .aiModel => uploadableResult itemTypeAiModel "Fail: AI Model item already exists" method
  | .dataBank => uploadableResult itemTypeDataBank "Fail: DataBank item already exists" method
  | .apps => appsResult method

theorem validatorResult_mem (method : Method) (type : ItemType) :
    (type.typeValue, validatorResult method type) ∈ validators method := by
  cases type <;> simp [validators, validatorResult, ItemType.typeValue]

theorem validateId_entered : Items.validateId (entered config principal body) = Items.validateId body := by
  have same : (entered config principal body).get? "id" = body.get? "id" := by
    simp [entered, JsonObject.get?_put, JsonObject.get?_remove]
  simp only [Items.validateId, JsonObject.containsKey, same, JsonObject.getString_congr same]
  rfl

/-- What follows the check of the id. -/
def nameProgram (config : Config) (method : Method) (type : ItemType) (name : String) (document : JsonObject)
    (refused : Option Throwable) : Handler :=
  (getSingleDocument (mustQuery [matchQuery "type" type.typeValue, matchQuery "name.keyword" name])).bind
    fun settled => onValidated config method
      (settle refused (validatorResult method type document (nameLookupResult settled)))

theorem itemHandler_eq {type : ItemType} {name : String} (user : caller.user = some principal)
    (one : NamesOne body type) (named : body.getString "name" = some name) :
    itemHandler config caller method body moment = orFail ((Items.validateId body).map
      (nameProgram config method type name (submitted config principal body moment))) := by
  have kept : (setCommonFields (addId (entered config principal body) moment) moment).getString "name" = some name :=
    (JsonObject.getString_congr (get?_submitted (by decide))).trans named
  rw [itemHandler, handleCreateOrUpdateItem_of_typed user (extracted_of_namesOne one) (validatorResult_mem method type)]
  cases decided : Items.validateId body with
  | error cause =>
      have refused : Items.validateId (entered config principal body) = .error cause := validateId_entered.trans decided
      simp only [validateNamed, refused]
      rfl
  | ok refused =>
      rw [validateNamed_of_named (validateId_entered.trans decided) kept, Except.map, Task.bind_assoc]
      rfl

theorem validatorResult_ended {type : ItemType} (readable : type = .apps ∨ body.get? "mediaURL" ≠ some .null)
    {settled : Settled (ElasticsearchResponse × Statics)} (ended : settled ≠ .pending) :
    validatorResult method type (submitted config principal body moment) (nameLookupResult settled) ≠ .pending := by
  have same : (submitted config principal body moment).get? "mediaURL" = body.get? "mediaURL" := get?_submitted (by decide)
  rw [← same] at readable
  cases type with
  | aiModel => exact uploadableResult_ended (readable.resolve_left (by simp)) ended
  | dataBank => exact uploadableResult_ended (readable.resolve_left (by simp)) ended
  | apps => exact appsResult_ended ended

theorem answeredOnce_nameProgram {type : ItemType} {name : String} {refused : Option Throwable}
    (readable : type = .apps ∨ body.get? "mediaURL" ≠ some .null ∨ refused ≠ none) :
    AnsweredOnce (nameProgram config method type name (submitted config principal body moment) refused) := by
  refine answeredOnce_bind (Future.settles_proxied _) fun settled ended => answeredOnce_onValidated ?_
  cases refused with
  | some cause => simp [settle]
  | none => exact validatorResult_ended (by simpa using readable) ended

/-- An item that a lookup can find. -/
def foundItem : Hit := ⟨modelId, modelBody "wheat"⟩

theorem foundItem_read : ∃ item, from_ (foundItem.source.remove "_summary") = .ok item := by
  have read : (from_ (foundItem.source.remove "_summary")).toOption.isSome = true := by decide +kernel
  cases built : from_ (foundItem.source.remove "_summary") with
  | ok item => exact ⟨item, rfl⟩
  | error cause =>
      rw [built] at read
      cases read

/-- A create that finds no item of its name, and an update that finds one, stay
open when the media URL is null. -/
theorem uploadableResult_lost {itemType alreadyExists : String} {request : JsonObject}
    (null : request.get? "mediaURL" = some .null) :
    ∃ reply statics, uploadableResult itemType alreadyExists method request
      (nameLookupResult (Future.delivered (singleResult reply statics))) = .pending := by
  have unread : mediaUrlPresent request = .error .nullPointer := by
    simp [mediaUrlPresent, JsonObject.containsKey, JsonObject.getString, null, nonNull, bind, Except.bind]
  cases method with
  | post =>
      refine ⟨.ok ⟨0, [], none⟩, {}, ?_⟩
      have absent : nameLookupResult (Future.delivered (singleResult (.ok ⟨0, [], none⟩) {})) =
          .failure (.runtime detailItemNotFound) := rfl
      rw [absent]
      simp [uploadableResult, onLookupFailure, Throwable.getMessage, whenNotFound, unread, bind, Except.bind, orPending]
  | put =>
      obtain ⟨item, read⟩ := foundItem_read
      refine ⟨.ok ⟨1, [foundItem], none⟩, {}, ?_⟩
      have found : nameLookupResult (Future.delivered (singleResult (.ok ⟨1, [foundItem], none⟩) {})) =
          .success (item, {}) := by
        have settled : singleResult (.ok ⟨1, [foundItem], none⟩) {} =
            .success (⟨some modelId, some (foundItem.source.remove "_summary")⟩, {}) := rfl
        have filled : (foundItem.source.remove "_summary").fields.isEmpty = false := by decide
        simp only [settled, Future.delivered, nameLookupResult, filled, read, Bool.false_eq_true, if_false]
      obtain ⟨contained, mentioned⟩ := exists_returnTypeContains read itemType
      rw [found]
      simp [uploadableResult, whenFound, mentioned, unread, bind, Except.bind, orPending]

theorem nameProgram_lost {type : ItemType} {name : String} (uploadable : type ≠ .apps)
    (null : body.get? "mediaURL" = some .null) :
    (nameProgram config method type name (submitted config principal body moment) none).Ends [] := by
  have kept : (submitted config principal body moment).get? "mediaURL" = some .null :=
    (get?_submitted (by decide)).trans null
  obtain ⟨reply, statics, lost⟩ : ∃ reply statics, validatorResult method type (submitted config principal body moment)
      (nameLookupResult (Future.delivered (singleResult reply statics))) = .pending := by
    cases type with
    | aiModel => exact uploadableResult_lost kept
    | dataBank => exact uploadableResult_lost kept
    | apps => contradiction
  have converted : Converts (mustQuery [matchQuery "type" type.typeValue, matchQuery "name.keyword" name])
      (.bool [.leaf (.match_ "type" type.typeValue none none), .leaf (.match_ "name.keyword" name none none)] [] [] []
        none) := rfl
  refine Task.ends_bind.mpr ⟨_, getSingleDocument_ends converted reply statics, ?_⟩
  rw [lost]
  rfl

/-- The body has an id that is no UUID. -/
def BadId (body : JsonObject) : Prop := ∃ id, body.getString "id" = some id ∧ isValidUuid id = false

theorem validateId_of_bad (bad : BadId body) : Items.validateId body = .ok (some incorrectId) := by
  obtain ⟨id, given, invalid⟩ := bad
  have present : body.containsKey "id" = true := by
    cases stored : body.get? "id" with
    | none => simp [JsonObject.getString, stored] at given
    | some value => simp [JsonObject.containsKey, stored]
  simp [Items.validateId, present, given, invalid, nonNull, bind, Except.bind, pure, Except.pure]

/-- The ids that validateId does not let through. -/
theorem validateId_refuses_iff :
    Items.validateId body ≠ .ok none ↔ body.get? "id" = some .null ∨ BadId body := by
  cases stored : body.get? "id" with
  | none => simp [Items.validateId, JsonObject.containsKey, JsonObject.getString, stored, BadId, pure, Except.pure]
  | some value =>
      by_cases null : value = .null
      · simp [Items.validateId, JsonObject.containsKey, JsonObject.getString, stored, null, nonNull, bind, Except.bind]
      · have given : body.getString "id" = some (javaText value) := by
          simp only [JsonObject.getString, stored]
        cases valid : isValidUuid (javaText value) <;>
          simp [Items.validateId, JsonObject.containsKey, stored, null, given, valid, BadId, nonNull, bind,
            Except.bind, pure, Except.pure]

def invalidUuid : Outcome :=
  sendError 400 "urn:dx:cat:InvalidUUID" "Invalid syntax of uuid" "Syntax of the UUID is incorrect"

/-- The UUID error is the only answer, and nothing is written. -/
def RefusesId (handler : Handler) : Prop :=
  handler.AllCalls IsRead ∧ ∀ outcomes, handler.Ends outcomes → outcomes = [invalidUuid]

theorem refusesId_itemHandler {type : ItemType} {name : String} (user : caller.user = some principal)
    (one : NamesOne body type) (named : body.getString "name" = some name) (bad : BadId body) :
    RefusesId (itemHandler config caller method body moment) := by
  rw [itemHandler_eq user one named, validateId_of_bad bad]
  refine ⟨always_getSingleDocument (fun query converted => trivial) fun settled => trivial, fun outcomes ends => ?_⟩
  obtain ⟨settled, -, goes⟩ := Task.ends_bind.mp ends
  have answered : [handleValidationFailure config.unicode incorrectId] = outcomes := goes
  rw [← answered, handleValidationFailure, if_pos (equalsIgnoreCase_refl config.unicode incorrectId.getMessage)]
  rfl

/-- A create or update with one catalogue type and a name is answered once, and
a bad id with the UUID error, exactly when it is of an app, its media URL is
not null, or its id is refused. -/
theorem create_or_update_answered_once_iff {type : ItemType} {name : String} (user : caller.user = some principal)
    (one : NamesOne body type) (named : body.getString "name" = some name) :
    (AnsweredOnce (itemHandler config caller method body moment) ∧
      (BadId body → RefusesId (itemHandler config caller method body moment))) ↔
    type = .apps ∨ body.get? "mediaURL" ≠ some .null ∨ body.get? "id" = some .null ∨ BadId body := by
  rw [← validateId_refuses_iff, and_iff_left (refusesId_itemHandler user one named), itemHandler_eq user one named]
  cases decided : Items.validateId body with
  | error cause => simp [Except.map, orFail, answeredOnce_done]
  | ok refused =>
      refine ⟨fun once => ?_, fun readable => answeredOnce_nameProgram (by simpa using readable)⟩
      by_contra unreadable
      simp only [not_or, ne_eq, not_not, Except.ok.injEq] at unreadable
      obtain ⟨uploadable, null, accepted⟩ := unreadable
      subst accepted
      have none := once [] (nameProgram_lost uploadable null)
      contradiction

end

def nullMediaBody : JsonObject := (modelBody "wheat").put "mediaURL" .null

theorem namesOne_aiModel {body : JsonObject} (stored : body.get? "type" = some (.arr [.str "adex:AiModel"])) :
    NamesOne body .aiModel :=
  ⟨_, stored, fun known _ => by simp [ItemType.typeValue, itemTypeAiModel]⟩

def postsOnce (body : JsonObject) : Prop :=
  AnsweredOnce (itemHandler asciiServer.config (provider "first") .post body someMoment) ∧
    (BadId body → RefusesId (itemHandler asciiServer.config (provider "first") .post body someMoment))

theorem create_or_update_answered_once_sat : postsOnce (modelBody "wheat") := by
  have absent : (modelBody "wheat").get? "mediaURL" = none := rfl
  exact (create_or_update_answered_once_iff rfl (namesOne_aiModel rfl) rfl).mpr (.inr (.inl (by simp [absent])))

theorem passes_of_isNone {checked : Except Throwable Guard} (passes : checked.toOption.any Option.isNone = true) :
    checked = .ok none := by
  cases checked with
  | error cause => cases passes
  | ok refused =>
      cases refused with
      | none => rfl
      | some answer => cases passes

theorem createOrUpdate_provider {body : JsonObject}
    (role : verifyItemTypeAndRole asciiUnicode (provider "first") (some body) = .ok none) :
    createOrUpdate asciiServer.config (provider "first") .post (some body) someMoment =
      itemHandler asciiServer.config (provider "first") .post body someMoment := by
  have token : checkIfTokenPresent (provider "first") = none := by decide
  have allowed : verifyItemTypeAndRole asciiServer.config.unicode (provider "first") (some body) = .ok none := role
  simp only [createOrUpdate, token, allowed]
  rfl

/-- The body is admitted and passes the role check, and the request can stay
without an answer. -/
theorem null_media_never_answered :
    admitsBody (fun _ _ => true) (some nullMediaBody) = true ∧
      (createOrUpdate asciiServer.config (provider "first") .post (some nullMediaBody) someMoment).Ends [] ∧
      ¬postsOnce nullMediaBody := by
  have id : Items.validateId nullMediaBody = .ok none := by decide +kernel
  have lost : (itemHandler asciiServer.config (provider "first") .post nullMediaBody someMoment).Ends [] := by
    rw [itemHandler_eq rfl (namesOne_aiModel rfl) rfl, id]
    exact nameProgram_lost (by simp) rfl
  refine ⟨by decide +kernel, ?_, fun once => ?_⟩
  · have passes : (verifyItemTypeAndRole asciiUnicode (provider "first") (some nullMediaBody)).toOption.any
        Option.isNone = true := by decide +kernel
    rw [createOrUpdate_provider (passes_of_isNone passes)]
    exact lost
  · have none := once.1 [] lost
    contradiction

end Tgdex.Properties
