import Tgdex.Properties.NameUniqueness

namespace Tgdex.Properties

open Tgdex.Data Tgdex.Java Tgdex.Effects Tgdex.Elastic Tgdex.Query Tgdex.Items

/-! # The publish status under updates -/

/-- The publish status of a document, PENDING if it has none. -/
def statusOf (document : JsonObject) : Json := (document.given? "publishStatus").getD (.str pending)

def IsUploadable (document : JsonObject) : Prop :=
  itemTypeAiModel ∈ fieldTexts document ["type"] ∨ itemTypeDataBank ∈ fieldTexts document ["type"]

/-- An update that succeeds leaves the status of the item it addresses as it
was, and every other item too. -/
def KeepsStatus (body : Option JsonObject) (moment : Moment) (before : Index) (outcomes : List Outcome)
    (after : Server.State) : Prop :=
  Succeeds outcomes → ∀ given id document, body = some given → (addId given moment).getString "id" = some id →
    before.lookup id = some document → IsUploadable document →
    (∃ updated, after.store.lookup id = some updated ∧ updated.get? "publishStatus" = some (statusOf document)) ∧
      ∀ other, other ≠ id → after.store.lookup other = before.lookup other

variable {engine : Engine} {config : Config} {caller : Caller} {body : Option JsonObject} {moment : Moment}
  {store : Index}

/-- The status that an update asks for: that of the item found under the name in
the body, and what the body says if nothing of an item is found or apps are updated. -/
def requestedStatus (update : Update engine config caller body moment store) : Option Json :=
  match update.first with
  | some found =>
      if update.submission.itemType = itemTypeApps ∨ (readSource found.source).fields.isEmpty then
        update.submission.given.get? "publishStatus"
      else some (nullable (extractPublishStatusFromES (readSource found.source)))
  | none => update.submission.given.get? "publishStatus"

/-- The status that an update sends to the index: an empty one is left out. -/
def sentStatus (update : Update engine config caller body moment store) : Option Json :=
  (requestedStatus update).bind (config.wire.stays.entry "publishStatus")

/-- What is sent makes no difference to the status of a document, and is there
if the document has none. -/
def StatusKept (sent : Option Json) (document : JsonObject) : Prop :=
  match sent with
  | some status => (document.get? "publishStatus").elim status (·.merge status) = statusOf document
  | none => document.given? "publishStatus" ≠ none

theorem extractPublishStatus_of_from {document : JsonObject} {item : Item}
    (read : from_ document = .ok item) :
    extractPublishStatusFromES item.toJson = extractPublishStatusFromES document := by
  obtain ⟨readers, known, reads⟩ := class_of_from read
  have same : item.toJson.get? "publishStatus" = document.get? "publishStatus" :=
    toJson_additional reads (classes_keep readers known "publishStatus" (by simp))
  unfold extractPublishStatusFromES JsonObject.getStringOr JsonObject.containsKey
  rw [same, JsonObject.getString_congr same]

theorem get?_document {method : Method} (submission : Submission config caller method body moment) :
    submission.document.get? "publishStatus" = submission.given.get? "publishStatus" :=
  get?_submitted (by decide)

theorem get?_uploadable {itemType alreadyExists : String}
    (update : Update engine config caller body moment store) (notApps : update.submission.itemType ≠ itemTypeApps)
    (success : uploadableResult itemType alreadyExists .put update.submission.document
      (nameLookupResult (.success (responseOf update.first, {}))) = .success update.request) :
    update.request.get? "publishStatus" = requestedStatus update := by
  have outcome := uploadable_of_success success
  simp only [requestedStatus]
  generalize update.request = request at outcome
  cases first : update.first with
  | none =>
      rw [first] at outcome
      change Uploadable _ _ (.failure (.runtime detailItemNotFound)) _ at outcome
      cases outcome
      exact get?_document update.submission
  | some hit =>
      rw [first] at outcome
      rcases nameLookupResult_hit hit {} with ⟨item, shown, read, looked⟩ | ⟨empty, looked⟩ | looked
      · rw [looked] at outcome
        cases outcome with
        | renamed uploaded =>
            simp [notApps, shown, putStatus, extractPublishStatus_of_from read]
      · rw [looked] at outcome
        cases outcome with
        | unnamed absent =>
            simp only [empty, or_true, if_true]
            exact get?_document update.submission
      · rw [looked] at outcome
        cases outcome with
        | unnamed absent => exact absurd absent (by decide)

theorem get?_request (update : Update engine config caller body moment store) :
    update.request.get? "publishStatus" = requestedStatus update := by
  have result := (settle_success update.valid).2
  rcases validator_cases update.submission.validator with ⟨notApps, alreadyExists, chosen⟩ | ⟨apps, chosen⟩
  · rw [chosen] at result
    exact get?_uploadable update notApps result
  · rw [chosen] at result
    rw [appsResult_success result, get?_document]
    simp only [requestedStatus, apps, true_or, if_true]
    split <;> rfl

/-- The status of the addressed document once an update is stored. -/
theorem get?_after (update : Update engine config caller body moment store) :
    (update.stored.mergeDeep (config.wire.written update.item.toJson)).get? "publishStatus" =
      match sentStatus update with
      | none => update.stored.get? "publishStatus"
      | some status => some ((update.stored.get? "publishStatus").elim status (·.merge status)) := by
  obtain ⟨readers, known, read⟩ := class_of_parse update.parsed
  have kept : update.item.toJson.get? "publishStatus" = update.request.get? "publishStatus" :=
    toJson_additional read (classes_keep readers known "publishStatus" (by simp))
  have carried : (config.wire.written update.item.toJson).get? "publishStatus" = sentStatus update := by
    rw [config.wire.get?_written, kept, get?_request, sentStatus]
  cases sent : sentStatus update <;> simp only [JsonObject.get?_mergeDeep, carried, sent]

theorem statusOf_eq_iff {document : JsonObject} :
    document.get? "publishStatus" = some (statusOf document) ↔ document.given? "publishStatus" ≠ none := by
  cases stored : document.get? "publishStatus" with
  | none => simp [JsonObject.given?, stored]
  | some value =>
      cases value <;> simp [statusOf, JsonObject.given?, stored, pending]

theorem statusKept_iff (update : Update engine config caller body moment store) :
    StatusKept (sentStatus update) update.stored ↔
      (update.stored.mergeDeep (config.wire.written update.item.toJson)).get? "publishStatus" =
        some (statusOf update.stored) := by
  rw [get?_after]
  simp only [StatusKept]
  split
  · rename_i status sent
    simp only [sent, Option.some.injEq]
  · rename_i sent
    simp only [sent, statusOf_eq_iff]

theorem keepsStatus_update (update : Update engine config caller body moment store) (shared : Statics) :
    KeepsStatus body moment store [sendSuccess config.held 200 "Success: Item updated successfully" update.item.toJson]
        ⟨update.after, shared⟩ ↔
      (IsUploadable update.stored → StatusKept (sentStatus update) update.stored) := by
  obtain ⟨addressed, -⟩ := update.submitted
  rw [statusKept_iff]
  refine ⟨?_, ?_⟩
  · intro keeps uploadable
    obtain ⟨⟨updated, here, status⟩, -⟩ :=
      keeps (succeeds_updated _ _) _ _ _ update.submission.hasBody addressed update.present uploadable
    obtain rfl := Option.some.inj (update.lookup_after.symm.trans here)
    exact status
  · intro kept _ given id document hasBody named stored uploadable
    obtain rfl := Option.some.inj (update.submission.hasBody.symm.trans hasBody)
    obtain rfl := Option.some.inj (addressed.symm.trans named)
    obtain rfl := Option.some.inj (update.present.symm.trans stored)
    exact ⟨⟨_, update.lookup_after, kept uploadable⟩, fun other differs => AList.lookup_insert_ne differs⟩

theorem keepsStatus_iff (server : Server) (state : Server.State) (caller : Caller) (body : Option JsonObject)
    (moment : Moment) :
    (∀ choices, let served := server.serve state (.item (.put caller body moment)) choices
      KeepsStatus body moment state.store served.1 served.2) ↔
    ∀ update : Update server.engine server.config caller body moment state.store,
      IsUploadable update.stored → StatusKept (sentStatus update) update.stored := by
  apply served_put_iff _ keepsStatus_update
  intro outcomes shared refuses succeeds
  exact absurd succeeds refuses.not_succeeds

/-- The document has one known type, and is pending if that is one of the two
that are published. -/
structure Filed (document : JsonObject) (texts : List String) (type : String) : Prop where
  types : document.get? "type" = some (.arr (texts.map .str))
  only : itemTypes.filter (fun known => decide (known ∈ texts)) = [type]
  pending : type ≠ itemTypeApps → document.get? "publishStatus" = some (.str pending)

theorem written_texts {wire : Wire} {document : JsonObject} {texts : List String} {type : String}
    (types : document.get? "type" = some (.arr (texts.map .str)))
    (only : itemTypes.filter (fun known => decide (known ∈ texts)) = [type]) :
    (wire.written document).get? "type" = some (.arr (texts.map .str)) := by
  have some_ : texts ≠ [] := by
    rintro rfl
    simp at only
  have listed : wire.stays.entry "type" (.arr (texts.map .str)) = some (.arr (texts.map .str)) :=
    Stays.entry_texts _ _ (by simpa using some_) (by simp)
  rw [wire.get?_written, types, Option.bind_some, listed]

theorem filed_creation (creation : Creation engine config caller body moment store) (plain : TypesAreTexts body) :
    ∃ texts, Filed (config.wire.written creation.item.toJson) texts creation.submission.itemType := by
  obtain ⟨texts, given, only⟩ := types_of_submission creation.submission plain
  obtain ⟨types, -⟩ := type_of_item creation.valid creation.parsed given
  refine ⟨texts, ?_, only, fun uploadable => ?_⟩
  · exact written_texts types only
  · obtain ⟨readers, known, read⟩ := class_of_parse creation.parsed
    have result := (settle_success creation.valid).2
    refine config.wire.written_text ?_ (by decide)
    rw [toJson_additional read (classes_keep readers known "publishStatus" (by simp))]
    rcases validator_cases creation.submission.validator with ⟨-, alreadyExists, chosen⟩ | ⟨apps, -⟩
    · rw [chosen] at result
      have outcome := uploadable_of_success result
      generalize creation.request = request at outcome
      cases outcome with
      | created uploaded => simp [putStatus, nullable]
    · exact absurd apps uploadable

theorem eq_of_only {texts : List String} {type known : String}
    (only : itemTypes.filter (fun known => decide (known ∈ texts)) = [type]) (present : known ∈ texts)
    (catalogued : known ∈ itemTypes) : known = type := by
  rw [← containsText_texts] at only
  exact eq_of_listed only (List.mem_map_of_mem present) catalogued

theorem filed_update (update : Update engine config caller body moment store) (plain : TypesAreTexts body)
    (valid : ValidIds store) {before : List String} {former : String} (filed : Filed update.stored before former)
    (kept : IsUploadable update.stored → StatusKept (sentStatus update) update.stored) :
    ∃ texts, Filed (update.stored.mergeDeep (config.wire.written update.item.toJson)) texts update.submission.itemType := by
  obtain ⟨texts, given, only⟩ := types_of_submission update.submission plain
  obtain ⟨types, -⟩ := type_of_item update.valid update.parsed given
  have before_ : update.submission.itemType ∈ before := by
    rw [← fieldTexts_of_texts filed.types, ← type_of_update update]
    exact type_of_updateHit valid update.present update.found
  have catalogued : update.submission.itemType ∈ itemTypes := by
    obtain ⟨type, -, named, -⟩ := class_of_request update.valid update.parsed
    rw [named]
    exact typeValue_mem type
  have former_ : update.submission.itemType = former := eq_of_only filed.only before_ catalogued
  have carried : (config.wire.written update.item.toJson).get? "type" = some (.arr (texts.map .str)) :=
    written_texts types only
  refine ⟨texts, JsonObject.get?_mergeDeep_scalar _ carried rfl, only, fun uploadable => ?_⟩
  have pending_ := filed.pending fun apps => uploadable (former_.trans apps)
  have published : IsUploadable update.stored := by
    have member := mem_types_of_validator update.submission.validator
    rw [IsUploadable, fieldTexts_of_texts filed.types]
    simp only [List.mem_cons, List.not_mem_nil, or_false] at member
    rcases member with aiModel | dataBank | apps
    · exact .inl (aiModel ▸ before_)
    · exact .inr (dataBank ▸ before_)
    · exact absurd apps uploadable
  rw [(statusKept_iff update).mp (kept published)]
  simp [statusOf, JsonObject.given?, pending_]

def AllFiled (store : Index) : Prop :=
  ∀ id document, store.lookup id = some document → ∃ texts type, Filed document texts type

/-- What is sent with an update makes no difference to the status of its item. -/
def KeepsStatuses (server : Server) (state : Server.State) : Request → Prop
  | .item (.post _ body _) => TypesAreTexts body
  | .item (.put caller body moment) => TypesAreTexts body ∧
      ∀ update : Update server.engine server.config caller body moment state.store,
        IsUploadable update.stored → StatusKept (sentStatus update) update.stored
  | _ => True

theorem allFiled_insert (all : AllFiled store) {id : String} {document : JsonObject}
    (filed : ∃ texts type, Filed document texts type) : AllFiled (store.insert id document) := by
  exact forall_lookup_insert all filed

theorem allFiled_erase (all : AllFiled store) (id : String) : AllFiled (store.erase id) := by
  exact forall_lookup_erase all id

theorem ensures_allFiled (server : Server) (state : Server.State) (request : Request)
    (keeps : KeepsStatuses server state request) (valid : ValidIds state.store) (all : AllFiled state.store) :
    (request.handler server.config).Ensures server.engine.backend state fun _ after => AllFiled after.store := by
  cases request using Request.byWrite with
  | reads request reads => exact (ensures_of_onlyReads reads state).imp fun _ after same => same.symm ▸ all
  | post caller body moment =>
      refine ensures_post (fun _ _ _ => all) fun creation _ => ?_
      obtain ⟨texts, filed⟩ := filed_creation creation keeps
      exact allFiled_insert all ⟨texts, _, filed⟩
  | put caller body moment =>
      refine ensures_put (fun _ _ _ => all) fun update _ => ?_
      obtain ⟨before, former, stored⟩ := all _ _ update.present
      obtain ⟨texts, filed⟩ := filed_update update keeps.1 valid stored (keeps.2 update)
      exact allFiled_insert all ⟨texts, _, filed⟩
  | delete caller id => exact ensures_deleteRoute (fun _ _ _ => all) fun _ hit _ _ _ _ _ => allFiled_erase all hit.id

/-- In a run whose updates keep the statuses, AI models and data banks stay pending. -/
theorem pending_of_run (server : Server) (requests : List (Request × (Nat → Choice)))
    (meets : server.Meets (KeepsStatuses server) Server.initial requests) (id : String) (document : JsonObject)
    (stored : (server.serveAll Server.initial requests).store.lookup id = some document)
    (uploadable : IsUploadable document) : document.get? "publishStatus" = some (.str pending) := by
  have kept : ∀ state request, KeepsStatuses server state request → ValidIds state.store ∧ AllFiled state.store →
      (request.handler server.config).Ensures server.engine.backend state
        fun _ after => ValidIds after.store ∧ AllFiled after.store :=
    fun state request keeps now =>
      (ensures_validIds request now.1).and (ensures_allFiled server state request keeps now.1 now.2)
  have start : AllFiled Server.initial.store := by
    intro other found present
    cases present
  have all := Server.serveAll_preserves (fun state => ValidIds state.store ∧ AllFiled state.store) kept meets
    ⟨validIds_empty, start⟩
  obtain ⟨texts, type, filed⟩ := all.2 id document stored
  rw [IsUploadable, fieldTexts_of_texts filed.types] at uploadable
  refine filed.pending fun apps => ?_
  rcases uploadable with aiModel | dataBank
  · exact absurd ((eq_of_only filed.only aiModel (by decide)).trans apps) (by decide)
  · exact absurd ((eq_of_only filed.only dataBank (by decide)).trans apps) (by decide)

/-- An update leaves the status of its item as it was exactly when what is sent
makes no difference to the stored status, and in runs of such updates every AI
model and every data bank is pending. -/
theorem publish_status_kept_iff (server : Server) :
    (∀ state caller body moment,
      (∀ choices, let served := server.serve state (.item (.put caller body moment)) choices
        KeepsStatus body moment state.store served.1 served.2) ↔
      ∀ update : Update server.engine server.config caller body moment state.store,
        IsUploadable update.stored → StatusKept (sentStatus update) update.stored) ∧
    ∀ requests, server.Meets (KeepsStatuses server) Server.initial requests → ∀ id document,
      (server.serveAll Server.initial requests).store.lookup id = some document → IsUploadable document →
        document.get? "publishStatus" = some (.str pending) :=
  ⟨keepsStatus_iff server, pending_of_run server⟩

theorem typesAreTexts_modelBody (name : String) : TypesAreTexts (some (modelBody name)) := by
  intro given types same stored
  obtain rfl := Option.some.inj same
  have listed : (modelBody name).get? "type" = some (.arr [.str "adex:AiModel"]) := rfl
  obtain rfl := Json.arr.inj (Option.some.inj (listed.symm.trans stored))
  exact ⟨["adex:AiModel"], rfl⟩

def hasStatus (text : String) (document : JsonObject) : Bool :=
  match document.get? "publishStatus" with
  | some (.str status) => status == text
  | _ => false

theorem hasStatus_iff {text : String} {document : JsonObject} :
    hasStatus text document = true ↔ document.get? "publishStatus" = some (.str text) := by
  exact hasText_iff

theorem model_stored :
    ∃ document, withModel.store.lookup modelId = some document ∧ IsUploadable document ∧
      document.get? "publishStatus" = some (.str "PENDING") := by
  have facts : (withModel.store.lookup modelId).any (fun document =>
      decide (itemTypeAiModel ∈ fieldTexts document ["type"]) && hasStatus "PENDING" document) = true := by decide +kernel
  obtain ⟨document, stored, holds⟩ := (Option.any_eq_true _ _).mp facts
  rw [Bool.and_eq_true, decide_eq_true_eq, hasStatus_iff] at holds
  exact ⟨document, stored, .inl holds.1, holds.2⟩

/-- An update under the name of the model finds the model. -/
theorem first_of_wheat {caller : Caller} {moment : Moment}
    (update : Update asciiEngine asciiServer.config caller (some (modelBody "wheat")) moment withModel.store) :
    update.submission.itemType = itemTypeAiModel ∧
      ∃ document, withModel.store.lookup modelId = some document ∧ update.first = some ⟨modelId, document⟩ := by
  obtain ⟨other, document, -, stored, catalogued, named⟩ := wheat_taken
  have same := Option.some.inj update.submission.hasBody
  have typed := update.submission.typed
  rw [← same] at typed
  have model : extractAndValidateItemType (modelBody "wheat") = some itemTypeAiModel := by decide +kernel
  have itemType := Option.some.inj (typed.symm.trans model)
  have name : update.submission.name = "wheat" := by
    have given := update.submission.named
    rw [JsonObject.getString_congr (get?_submitted (by decide)), ← same] at given
    exact (Option.some.inj given).symm
  have query : update.submission.nameQuery = nameLookup .aiModel "wheat" := by
    rw [Submission.nameQuery, itemType, name]
    rfl
  refine ⟨itemType, ?_⟩
  have answers := update.answers
  rw [query] at answers
  cases first : update.first with
  | none =>
      have words : ∀ type : ItemType, asciiEngine.analyzer.tokens type.typeValue ≠ [] := by
        intro type
        cases type <;> decide
      rw [first] at answers
      exact absurd answers (List.ne_nil_of_mem (nameLookup_finds words stored catalogued named (by decide)))
  | some hit =>
      rw [first] at answers
      have present := (Engine.mem_hits.mp answers).1
      have here := id_withModel present
      exact ⟨hit.source, here ▸ present, congrArg some (congrArg (Hit.mk · hit.source) here)⟩

/-- A model that is created and updated under its name. -/
def resent : List (Request × (Nat → Choice)) :=
  [(.item (.post (provider "first") (some (modelBody "wheat")) someMoment), fun _ => .plain),
    (.item (.put (provider "first") (some (modelBody "wheat")) someMoment), fun _ => .plain)]

theorem publish_status_kept_iff_model :
    (asciiServer.serve withModel (.item (.put (provider "first") (some (modelBody "wheat")) someMoment))
        fun _ => .plain).1.map Outcome.status = [200] ∧
      ∃ document, (asciiServer.serveAll Server.initial resent).store.lookup modelId = some document ∧
        document.get? "publishStatus" = some (.str pending) := by
  refine ⟨by decide +kernel, ?_⟩
  have facts : ((asciiServer.serveAll Server.initial resent).store.lookup modelId).any (fun document =>
      decide (itemTypeAiModel ∈ fieldTexts document ["type"])) = true := by decide +kernel
  obtain ⟨document, stored, typed⟩ := (Option.any_eq_true _ _).mp facts
  refine ⟨document, stored, (publish_status_kept_iff asciiServer).2 resent
    ⟨typesAreTexts_modelBody "wheat", ⟨typesAreTexts_modelBody "wheat", ?_⟩, trivial⟩ modelId document stored
    (.inl (of_decide_eq_true typed))⟩
  intro update _
  obtain ⟨document, stored, -, status⟩ := model_stored
  obtain ⟨itemType, found, present, first⟩ := first_of_wheat update
  obtain rfl := Option.some.inj (stored.symm.trans present)
  have updated : update.stored = document := by
    have here := update.present
    rw [id_withModel here] at here
    exact Option.some.inj (here.symm.trans stored)
  have read := readSource_text status (by decide) (by decide)
  obtain ⟨type, catalogued⟩ := catalogued_withModel modelId document stored
  have shown := read_nonempty catalogued
  have text := JsonObject.getString_of_get? read
  have requested : requestedStatus update = some (.str pending) := by
    simp [requestedStatus, first, itemType, itemTypeAiModel, itemTypeApps, shown, extractPublishStatusFromES,
      JsonObject.getStringOr, JsonObject.containsKey, read, text, nullable, pending]
  have same : statusOf document = .str pending := by simp [statusOf, JsonObject.given?, status, pending]
  rw [sentStatus, requested, updated, Option.bind_some, Stays.entry_str, if_neg (by decide)]
  change (document.get? "publishStatus").elim (.str pending) (·.merge (.str pending)) = statusOf document
  rw [same, status]
  rfl

/-- A name that no model has lets the status in the body through. -/
theorem status_in_body_stored :
    let body := (modelBody "maize").put "publishStatus" (.str "APPROVED")
    let served := asciiServer.serve withModel (.item (.put (provider "first") (some body) someMoment)) fun _ => .plain
    asciiServer.Reachable withModel ∧ served.1.map Outcome.status = [200] ∧
      (served.2.store.lookup modelId).any (hasStatus "APPROVED") = true ∧
      ¬KeepsStatus (some body) someMoment withModel.store served.1 served.2 := by
  intro body served
  have facts : served.1.map Outcome.status = [200] ∧
      (served.2.store.lookup modelId).any (hasStatus "APPROVED") = true := by decide +kernel
  obtain ⟨statuses, approved⟩ := facts
  refine ⟨⟨_, rfl⟩, statuses, approved, fun keeps => ?_⟩
  obtain ⟨document, stored, uploadable, pending_⟩ := model_stored
  have named : (addId body someMoment).getString "id" = some modelId := by decide +kernel
  obtain ⟨⟨updated, here, same⟩, -⟩ :=
    keeps (succeeds_of_statuses statuses) body modelId document rfl named stored uploadable
  have status : statusOf document = .str "PENDING" := by simp [statusOf, JsonObject.given?, pending_]
  rw [here, Option.any_some, hasStatus_iff, same, status] at approved
  exact absurd (Json.str.inj (Option.some.inj approved)) (by decide)

end Tgdex.Properties
