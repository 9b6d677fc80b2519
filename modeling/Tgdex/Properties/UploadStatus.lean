import Tgdex.Items.Classes
import Tgdex.Properties.ItemTypes

namespace Tgdex.Properties

open Tgdex.Data Tgdex.Java Tgdex.Effects Tgdex.Elastic Tgdex.Query Tgdex.Items

/-! # The upload status and the media URL -/

variable {engine : Engine} {config : Config} {caller : Caller} {method : Method} {body : Option JsonObject}
  {moment : Moment} {store : Index}

/-- The media URL of the document is a text that is not blank. -/
def hasMedia (document : JsonObject) : Bool :=
  match document.get? "mediaURL" with
  | some (.str url) => !isBlank url
  | _ => false

def isUploaded (document : JsonObject) : Bool :=
  match document.get? "dataUploadStatus" with
  | some (.bool uploaded) => uploaded
  | _ => false

/-- A body gives a media URL, in whatever form. -/
def givesMedia (given : JsonObject) : Bool := (given.getString "mediaURL").any fun url => !isBlank url

/-- After the run the models and data banks with a media URL are uploaded, and
those that had none in any state of the run are not. -/
def StatusFollowsMedia (server : Server) (requests : List (Request × (Nat → Choice))) : Prop :=
  ∀ id document type, (server.serveAll Server.initial requests).store.lookup id = some document →
    Catalogued id type document → type ≠ .apps →
    (hasMedia document = true → document.get? "dataUploadStatus" = some (.bool true)) ∧
    ((∀ state ∈ server.visited Server.initial requests, ∀ earlier, state.store.lookup id = some earlier →
      hasMedia earlier = false) → document.get? "dataUploadStatus" = some (.bool false))

/-- The media URL that an update leaves in the stored document is not blank; an
empty one is not sent. -/
def leavesMedia (given stored : JsonObject) : Bool :=
  match notEmpty (given.getString "mediaURL") with
  | some url => !isBlank url
  | none => hasMedia stored

/-- The item found under the name, as it is read, is uploaded without a media URL,
so that an update takes its status over. -/
def passesStatus (found : JsonObject) : Bool :=
  extractDataUploadStatusFromES found && !extractMediaUrlFromES found

/-- When the status of a stored document follows its media URL through an
update, by the body, the document and the item found under the body's name. -/
def UploadFollows (given stored : JsonObject) : Option Hit → Prop
  | some found => givesMedia given = true ∨
      if leavesMedia given stored then passesStatus (readSource found.source) = true
      else passesStatus (readSource found.source) = true → isUploaded stored = true
  | none =>
      match given.get? "dataUploadStatus" with
      | some (.bool true) => leavesMedia given stored = true ∨ isUploaded stored = true
      | some (.bool false) => leavesMedia given stored = false
      | _ => leavesMedia given stored = true → isUploaded stored = true

/-- The status that an update sends: one that is made of the item found under
the name, or what the body says if there is none. -/
def sentUpload (update : Update engine config caller body moment store) : Option Bool :=
  match update.first with
  | some found => some (givesMedia update.submission.given || passesStatus (readSource found.source))
  | none =>
      match update.submission.given.get? "dataUploadStatus" with
      | some (.bool uploaded) => some uploaded
      | _ => none

theorem leavesMedia_of_gives {given : JsonObject} (gives : givesMedia given = true) (stored : JsonObject) :
    leavesMedia given stored = true := by
  rw [givesMedia, Option.any_eq_true] at gives
  obtain ⟨url, read, visible⟩ := gives
  have some_ : url ≠ "" := by
    rintro rfl
    cases visible
  simp only [leavesMedia, read, notEmpty_visible some_, visible]

/-- The condition is what the stored status needs: uploaded with a media URL,
and without one only if it was before. -/
theorem uploadFollows_iff (update : Update engine config caller body moment store) :
    UploadFollows update.submission.given update.stored update.first ↔
      if leavesMedia update.submission.given update.stored
      then (sentUpload update).getD (isUploaded update.stored) = true
      else (sentUpload update).getD (isUploaded update.stored) = true → isUploaded update.stored = true := by
  cases first : update.first with
  | some found =>
      simp only [UploadFollows, sentUpload, first, Option.getD_some]
      cases gives : givesMedia update.submission.given with
      | true => simp [leavesMedia_of_gives gives]
      | false => simp
  | none =>
      simp only [UploadFollows, sentUpload, first]
      -- Only a flag is a status that the body sends.
      rcases update.submission.given.get? "dataUploadStatus" with _ | (_ | uploaded | _ | _ | _ | _)
      case some.bool =>
          cases uploaded <;> cases leavesMedia update.submission.given update.stored <;> simp
      all_goals cases leavesMedia update.submission.given update.stored <;> simp

theorem uploadable_readers :
    ∀ type : ItemType, type ≠ .apps →
      (readersOf type).find? (fun reader => reader.key == "dataUploadStatus") = some (.flag "dataUploadStatus") ∧
      (readersOf type).find? (fun reader => reader.key == "mediaURL") = some (.text "mediaURL") := by
  intro type uploadable
  cases type with
  | apps => exact absurd rfl uploadable
  | aiModel => decide
  | dataBank => decide

theorem mediaUrlPresent_eq_ok {request : JsonObject} {present : Bool}
    (checked : mediaUrlPresent request = .ok present) : present = givesMedia request := by
  simp only [mediaUrlPresent] at checked
  split at checked
  · simp only [bind_eq_ok, nonNull_eq_ok, pure, Except.pure, Except.ok.injEq] at checked
    obtain ⟨url, given, rfl⟩ := checked
    simp [givesMedia, given]
  · rename_i absent
    cases checked
    have none : request.get? "mediaURL" = none := by simpa [JsonObject.containsKey] using absent
    simp [givesMedia, JsonObject.getString, none]

theorem givesMedia_document (submission : Submission config caller method body moment) :
    givesMedia submission.document = givesMedia submission.given := by
  rw [givesMedia, givesMedia]
  have same : submission.document.get? "mediaURL" = submission.given.get? "mediaURL" := get?_submitted (by decide)
  rw [JsonObject.getString_congr same]

theorem status_putStatus (document : JsonObject) (uploaded : Bool) (status : Option String) :
    (putStatus document uploaded status).get? "dataUploadStatus" = some (.bool uploaded) := by
  simp [putStatus, JsonObject.get?_put]

/-- A create sends whether the body gives a media URL. -/
theorem status_created {itemType alreadyExists : String} {document request : JsonObject}
    {settled : Settled (Item × Statics)}
    (success : uploadableResult itemType alreadyExists .post document settled = .success request) :
    request.get? "dataUploadStatus" = some (.bool (givesMedia document)) := by
  have set : ∀ {status}, (do return Settled.success (putStatus document (← mediaUrlPresent document) status)) =
      Except.ok (Settled.success request) → request.get? "dataUploadStatus" = some (.bool (givesMedia document)) := by
    intro status attempt
    simp only [bind_eq_ok, pure, Except.pure, Except.ok.injEq, Settled.success.injEq] at attempt
    obtain ⟨present, checked, rfl⟩ := attempt
    rw [status_putStatus, mediaUrlPresent_eq_ok checked]
  cases settled with
  | pending => cases success
  | failure cause => exact set (orPending_success (onLookupFailure_success success).2)
  | success found =>
      have attempt := orPending_success success
      simp only [whenFound] at attempt
      obtain ⟨sameType, -, attempt⟩ := bind_eq_ok.mp attempt
      cases sameType with
      | true => cases attempt
      | false => exact set attempt

/-- An update that finds an item under the name makes a status of that item. -/
theorem status_renamed {itemType alreadyExists : String} {document request : JsonObject} {item : Item}
    {statics : Statics}
    (success : uploadableResult itemType alreadyExists .put document (.success (item, statics)) = .success request) :
    request.get? "dataUploadStatus" = some (.bool (givesMedia document ||
      (extractDataUploadStatusFromES item.toJson && !extractMediaUrlFromES item.toJson))) := by
  have attempt := orPending_success success
  simp only [whenFound, bind_eq_ok, pure, Except.pure, Except.ok.injEq, Settled.success.injEq] at attempt
  obtain ⟨-, -, present, checked, rfl⟩ := attempt
  rw [status_putStatus, mediaUrlPresent_eq_ok checked]

theorem classes_read_upload :
    ∀ readers ∈ itemClasses,
      (readers.find? (fun reader => reader.key == "dataUploadStatus") = some (.flag "dataUploadStatus") ∧
        readers.find? (fun reader => reader.key == "mediaURL") = some (.text "mediaURL")) ∨
      ("dataUploadStatus" ∉ readers.map Reader.key ∧ "mediaURL" ∉ readers.map Reader.key) := by
  decide

theorem toJson_flag {readers : List Reader} {json : JsonObject} {item : Item} {key : String}
    (read : fromJson readers json = .ok item)
    (found : readers.find? (fun reader => reader.key == key) = some (.flag key)) :
    ∃ flag, json.getBoolean key = .ok flag ∧ item.toJson.get? key = some (flagOrNull flag) := by
  obtain ⟨value, reads, written, -⟩ := toJson_read read found (by simp)
  simp only [Reader.read, bind_eq_ok, pure, Except.pure, Except.ok.injEq, Option.some.injEq] at reads
  obtain ⟨flag, given, rfl⟩ := reads
  refine ⟨flag, given, written.trans ?_⟩
  cases flag <;> rfl

theorem extractMediaUrl_eq (document : JsonObject) : extractMediaUrlFromES document = givesMedia document := by
  cases stored : document.get? "mediaURL" with
  | none =>
      have blank : isBlank "" = true := rfl
      simp [extractMediaUrlFromES, givesMedia, JsonObject.getStringOr, JsonObject.containsKey, JsonObject.getString,
        stored, blank]
  | some value =>
      simp only [extractMediaUrlFromES, givesMedia, JsonObject.getStringOr, JsonObject.containsKey, stored,
        Option.isSome_some, if_true]
      cases document.getString "mediaURL" <;> rfl

theorem extracted_of_from {document : JsonObject} {item : Item} (read : from_ document = .ok item) :
    extractDataUploadStatusFromES item.toJson = extractDataUploadStatusFromES document ∧
      extractMediaUrlFromES item.toJson = extractMediaUrlFromES document := by
  obtain ⟨readers, known, reads⟩ := class_of_from read
  rw [extractMediaUrl_eq, extractMediaUrl_eq, givesMedia, givesMedia]
  rcases classes_read_upload readers known with ⟨flagged, texted⟩ | ⟨unflagged, untexted⟩
  · obtain ⟨flag, given, written⟩ := toJson_flag reads flagged
    refine ⟨?_, ?_⟩
    · simp only [extractDataUploadStatusFromES, getBoolean_flagOrNull written, given]
    · rw [getString_nullable (toJson_text reads texted).1]
  · refine ⟨?_, ?_⟩
    · have same := toJson_additional reads unflagged
      simp only [extractDataUploadStatusFromES, JsonObject.getBoolean, same]
    · rw [JsonObject.getString_congr (toJson_additional reads untexted)]

theorem media_of_request (submission : Submission config caller method body moment)
    {settled : Settled (ElasticsearchResponse × Statics)} {request : JsonObject} {item : Item}
    (success : submission.validated settled = .success request) {type : ItemType} (uploadable : type ≠ .apps)
    (read : fromJson (readersOf type) request = .ok item) :
    (config.wire.written item.toJson).get? "mediaURL" = (notEmpty (submission.given.getString "mediaURL")).map .str := by
  have same : request.get? "mediaURL" = submission.given.get? "mediaURL" :=
    (submission.get?_request success (by decide)).trans (get?_submitted (by decide))
  have written := (toJson_text read (uploadable_readers type uploadable).2).1
  rw [JsonObject.getString_congr same] at written
  exact config.wire.written_nullable written

theorem status_of_request (wire : Wire) {request : JsonObject} {item : Item} {type : ItemType}
    (uploadable : type ≠ .apps) (read : fromJson (readersOf type) request = .ok item) :
    ∃ flag, request.getBoolean "dataUploadStatus" = .ok flag ∧
      (wire.written item.toJson).get? "dataUploadStatus" = flag.map .bool := by
  obtain ⟨flag, given, written⟩ := toJson_flag read (uploadable_readers type uploadable).1
  refine ⟨flag, given, ?_⟩
  rw [wire.get?_written, written]
  cases flag <;> rfl

/-- The validators of models and data banks. -/
theorem uploadable_validator {itemType : String} {result : JsonObject → Settled (Item × Statics) → Settled JsonObject}
    (validator : (itemType, result) ∈ validators method) (uploadable : itemType ≠ itemTypeApps) :
    ∃ alreadyExists, result = uploadableResult itemType alreadyExists method := by
  rcases validator_cases validator with ⟨-, chosen⟩ | ⟨apps, -⟩
  · exact chosen
  · exact absurd apps uploadable

theorem typeValue_ne_apps {type : ItemType} (uploadable : type ≠ .apps) : type.typeValue ≠ itemTypeApps :=
  fun same => uploadable (typeValue_inj same)

theorem status_of_update (all : AllCatalogued store) (update : Update engine config caller body moment store)
    {type : ItemType}
    (uploadable : type ≠ .apps) (named : update.submission.itemType = type.typeValue)
    (read : fromJson (readersOf type) update.request = .ok update.item) :
    (config.wire.written update.item.toJson).get? "dataUploadStatus" = (sentUpload update).map .bool := by
  obtain ⟨flag, given, written⟩ := status_of_request config.wire uploadable read
  rw [written]
  have notApps : update.submission.itemType ≠ itemTypeApps := named ▸ typeValue_ne_apps uploadable
  obtain ⟨alreadyExists, chosen⟩ := uploadable_validator update.submission.validator notApps
  have success := (settle_success update.valid).2
  have answers := update.answers
  rw [chosen] at success
  simp only [sentUpload]
  cases first : update.first with
  | none =>
      rw [first] at success
      have attempt := orPending_success (onLookupFailure_success success).2
      have same : update.request = update.submission.document := (Settled.success.inj (Except.ok.inj attempt)).symm
      have sent : update.submission.document.get? "dataUploadStatus" =
          update.submission.given.get? "dataUploadStatus" := get?_submitted (by decide)
      rw [same, JsonObject.getBoolean, sent] at given
      cases stored : update.submission.given.get? "dataUploadStatus" with
      | none =>
          rw [stored] at given
          cases given
          rfl
      | some value =>
          rw [stored] at given
          cases value <;> cases given <;> rfl
  | some hit =>
      rw [first] at success answers
      rcases nameLookupResult_hit hit {} with ⟨item, -, found, looked⟩ | ⟨empty, -⟩ | looked
      · rw [looked] at success
        have status := status_renamed success
        obtain ⟨uploaded, media⟩ := extracted_of_from found
        rw [givesMedia_document, uploaded, media] at status
        rw [JsonObject.getBoolean, status] at given
        cases given
        rfl
      · obtain ⟨kind, listed⟩ := all _ _ (Engine.mem_hits.mp answers).1
        rw [read_nonempty listed] at empty
        cases empty
      · rw [looked] at success
        exact absurd (onLookupFailure_success success).1 (by decide)

/-- The document of the id has had a media URL. -/
def HadMedia (past : List Server.State) (id : String) : Prop :=
  ∃ state ∈ past, ∃ earlier, state.store.lookup id = some earlier ∧ hasMedia earlier = true

/-- A document with a media URL is uploaded, and what is uploaded has had one. -/
def Followed (had : Prop) (document : JsonObject) : Prop :=
  ∃ uploaded, document.get? "dataUploadStatus" = some (.bool uploaded) ∧
    (hasMedia document = true → uploaded = true) ∧ (uploaded = true → had)

def AllFollowed (past : List Server.State) (store : Index) : Prop :=
  ∀ id document type, store.lookup id = some document → Catalogued id type document → type ≠ .apps →
    Followed (HadMedia past id) document

/-- Through every update of a model or data bank the status can follow the media URL. -/
def KeepsUploadStatus (server : Server) (conforms : TextRule → String → Bool) (state : Server.State) : Request → Prop
  | .item (.post _ body _) => admitsBody conforms body = true
  | .item (.put caller body moment) => admitsBody conforms body = true ∧
      ∀ update : Update server.engine server.config caller body moment state.store,
        update.submission.itemType ≠ itemTypeApps →
        UploadFollows update.submission.given update.stored update.first
  | _ => True

theorem keepsUploadStatus_admitted {server : Server} {conforms : TextRule → String → Bool} {state : Server.State}
    {request : Request} (keeps : KeepsUploadStatus server conforms state request) :
    RequestAdmitted conforms state request := by
  cases request using Request.byWrite with
  | reads request reads => exact admitted_of_onlyReads reads
  | post caller body moment => exact keeps
  | put caller body moment => exact keeps.1
  | delete caller id => trivial

theorem HadMedia.later {past : List Server.State} {id : String} (had : HadMedia past id) (after : Server.State) :
    HadMedia (past ++ [after]) id := by
  obtain ⟨state, member, found⟩ := had
  exact ⟨state, List.mem_append_left _ member, found⟩

theorem hadMedia_now {past : List Server.State} {after : Server.State} {id : String} {document : JsonObject}
    (stored : after.store.lookup id = some document) (media : hasMedia document = true) :
    HadMedia (past ++ [after]) id :=
  ⟨after, List.mem_append_right _ (List.mem_singleton_self after), document, stored, media⟩

theorem AllFollowed.later {past : List Server.State} (all : AllFollowed past store) (after : Server.State) :
    AllFollowed (past ++ [after]) store := by
  intro id document type stored catalogued uploadable
  obtain ⟨uploaded, status, media, had⟩ := all id document type stored catalogued uploadable
  exact ⟨uploaded, status, media, fun held => (had held).later after⟩

theorem allFollowed_insert {past : List Server.State} (all : AllFollowed past store) {id : String}
    {document : JsonObject} (followed : ∀ type, Catalogued id type document → type ≠ .apps →
      Followed (HadMedia past id) document) : AllFollowed past (store.insert id document) := by
  intro other found type present
  exact forall_lookup_insert (fun id document stored type => all id document type stored) followed other found present
    type

theorem allFollowed_erase {past : List Server.State} (all : AllFollowed past store) (id : String) :
    AllFollowed past (store.erase id) := by
  intro other found type present
  exact forall_lookup_erase (fun id document stored type => all id document type stored) id other found present type

theorem hasMedia_of_text {document : JsonObject} {url : Option String}
    (stored : document.get? "mediaURL" = (notEmpty url).map .str) :
    hasMedia document = url.any fun url => !isBlank url := by
  rw [hasMedia, stored]
  cases url with
  | none => rfl
  | some url =>
      by_cases empty : url = ""
      · subst empty
        rfl
      · simp [notEmpty_visible empty]

theorem followed_creation (creation : Creation engine config caller body moment store) (plain : TypesAreTexts body)
    {type : ItemType} (catalogued : Catalogued creation.id type (config.wire.written creation.item.toJson))
    (uploadable : type ≠ .apps) (past : List Server.State) (shared : Statics) :
    Followed (HadMedia (past ++ [⟨creation.after, shared⟩]) creation.id) (config.wire.written creation.item.toJson) := by
  obtain ⟨own, rest, named, -, -, read⟩ := class_of_request creation.valid creation.parsed
  obtain ⟨same, typed, after⟩ := catalogued_creation creation plain
  obtain rfl := after.unique catalogued
  obtain rfl := typeValue_inj (typed.symm.trans named)
  obtain ⟨flag, given, written⟩ := status_of_request config.wire uploadable read
  have notApps : creation.submission.itemType ≠ itemTypeApps := named ▸ typeValue_ne_apps uploadable
  obtain ⟨alreadyExists, chosen⟩ := uploadable_validator creation.submission.validator notApps
  have success := (settle_success creation.valid).2
  rw [chosen] at success
  rw [JsonObject.getBoolean, status_created success, givesMedia_document] at given
  cases given
  have media := hasMedia_of_text (media_of_request creation.submission creation.valid uploadable read)
  exact ⟨_, written, fun held => media.symm.trans held,
    fun held => hadMedia_now (AList.lookup_insert store) (media.trans held)⟩

theorem followed_update (update : Update engine config caller body moment store) (plain : TypesAreTexts body)
    (all : AllCatalogued store) {past : List Server.State} (followed : AllFollowed past store)
    (follows : update.submission.itemType ≠ itemTypeApps →
      UploadFollows update.submission.given update.stored update.first) {type : ItemType}
    (catalogued : Catalogued update.id type (update.stored.mergeDeep (config.wire.written update.item.toJson)))
    (uploadable : type ≠ .apps) (shared : Statics) :
    Followed (HadMedia (past ++ [⟨update.after, shared⟩]) update.id)
      (update.stored.mergeDeep (config.wire.written update.item.toJson)) := by
  obtain ⟨former, before⟩ := all _ _ update.present
  obtain ⟨named, -, after⟩ := catalogued_update update plain before all.validIds
  obtain rfl := after.unique catalogued
  obtain ⟨own, rest, same, -, -, read⟩ := class_of_request update.valid update.parsed
  obtain rfl := typeValue_inj (named.symm.trans same)
  have notApps : update.submission.itemType ≠ itemTypeApps := named ▸ typeValue_ne_apps uploadable
  obtain ⟨stored, status, -, had⟩ := followed update.id update.stored _ update.present before uploadable
  have sent := status_of_update all update uploadable named read
  have url := media_of_request update.submission update.valid uploadable read
  have holds := (uploadFollows_iff update).mp (follows notApps)
  have isStored : isUploaded update.stored = stored := by rw [isUploaded, status]
  have uploaded : (update.stored.mergeDeep (config.wire.written update.item.toJson)).get? "dataUploadStatus" =
      some (.bool ((sentUpload update).getD stored)) := by
    cases given : sentUpload update with
    | none => rw [JsonObject.get?_mergeDeep, sent, given, Option.map_none, Option.getD_none, status]
    | some value => exact JsonObject.get?_mergeDeep_scalar _ (by rw [sent, given]; rfl) rfl
  have media : hasMedia (update.stored.mergeDeep (config.wire.written update.item.toJson)) =
      leavesMedia update.submission.given update.stored := by
    rw [leavesMedia]
    cases given : notEmpty (update.submission.given.getString "mediaURL") with
    | some text =>
        have merged := JsonObject.get?_mergeDeep_scalar update.stored (url.trans (by rw [given]; rfl)) rfl
        rw [hasMedia, merged]
    | none =>
        have absent : (config.wire.written update.item.toJson).get? "mediaURL" = none := by rw [url, given]; rfl
        rw [hasMedia, JsonObject.get?_mergeDeep, absent, hasMedia]
  simp only [← media, isStored] at holds
  refine ⟨_, uploaded, fun now => ?_, fun held => ?_⟩
  · rwa [if_pos now] at holds
  · cases now : hasMedia (update.stored.mergeDeep (config.wire.written update.item.toJson)) with
    | true => exact hadMedia_now (AList.lookup_insert store) now
    | false =>
        rw [now, if_neg Bool.false_ne_true] at holds
        exact (had (holds held)).later _

theorem ensures_followed (server : Server) (conforms : TextRule → String → Bool) (past : List Server.State)
    (state : Server.State) (request : Request) (keeps : KeepsUploadStatus server conforms state request)
    (all : AllCatalogued state.store) (followed : AllFollowed past state.store) :
    (request.handler server.config).Ensures server.engine.backend state fun _ after =>
      AllFollowed (past ++ [after]) after.store := by
  cases request using Request.byWrite with
  | reads request reads =>
      exact (ensures_of_onlyReads reads state).imp fun _ after same => same.symm ▸ followed.later after
  | post caller body moment =>
      refine ensures_post (fun _ _ _ => followed.later _) fun creation shared => ?_
      exact allFollowed_insert (followed.later _) fun type catalogued uploadable =>
        followed_creation creation (typesAreTexts_of_admitted keeps) catalogued uploadable past shared
  | put caller body moment =>
      refine ensures_put (fun _ _ _ => followed.later _) fun update shared => ?_
      exact allFollowed_insert (followed.later _) fun type catalogued uploadable =>
        followed_update update (typesAreTexts_of_admitted keeps.1) all followed (keeps.2 update) catalogued uploadable
          shared
  | delete caller id =>
      exact ensures_deleteRoute (fun _ _ _ => followed.later _) fun _ hit _ _ _ _ _ =>
        allFollowed_erase (followed.later _) hit.id

/-- In a run whose updates meet the condition, the upload status of every model
and every data bank follows its media URL. -/
theorem upload_status_of_run (server : Server) (conforms : TextRule → String → Bool)
    (requests : List (Request × (Nat → Choice)))
    (keeps : server.Meets (KeepsUploadStatus server conforms) Server.initial requests) :
    StatusFollowsMedia server requests := by
  have kept : ∀ past state request, KeepsUploadStatus server conforms state request →
      AllCatalogued state.store ∧ AllFollowed past state.store →
      (request.handler server.config).Ensures server.engine.backend state
        fun _ after => AllCatalogued after.store ∧ AllFollowed (past ++ [after]) after.store :=
    fun past state request keeps now =>
      (ensures_allCatalogued server conforms state request (keepsUploadStatus_admitted keeps) now.1).and
        (ensures_followed server conforms past state request keeps now.1 now.2)
  have start : AllFollowed [] Server.initial.store := by
    intro id document type stored
    cases stored
  obtain ⟨-, followed⟩ := Server.serveAll_preserves_visited
    (fun past state => AllCatalogued state.store ∧ AllFollowed past state.store) kept keeps ⟨allCatalogued_empty, start⟩
  intro id document type stored catalogued uploadable
  obtain ⟨uploaded, status, media, had⟩ := followed id document type stored catalogued uploadable
  refine ⟨fun now => by rw [status, media now], fun never => ?_⟩
  cases held : uploaded with
  | false => rw [status, held]
  | true =>
      obtain ⟨state, member, earlier, present, before⟩ := had held
      rw [never state member earlier present] at before
      cases before

def modelWithMedia (name : String) : JsonObject := (modelBody name).put "mediaURL" (.str "https://media/1")

def uploads (name : String) : List (Request × (Nat → Choice)) :=
  [(.item (.post (provider "first") (some (modelWithMedia "wheat")) someMoment), fun _ => .plain),
    (.item (.put (provider "first") (some (modelWithMedia name)) someMoment), fun _ => .plain)]

theorem upload_status_of_run_model : StatusFollowsMedia asciiServer (uploads "maize") := by
  have posted : admitsBody (fun _ _ => true) (some (modelWithMedia "wheat")) = true := by decide +kernel
  have updated : admitsBody (fun _ _ => true) (some (modelWithMedia "maize")) = true := by decide +kernel
  refine upload_status_of_run asciiServer (fun _ _ => true) (uploads "maize") ⟨posted, ⟨updated, ?_⟩, trivial⟩
  intro update _
  have given : update.submission.given = modelWithMedia "maize" :=
    (Option.some.inj update.submission.hasBody).symm
  have addressed := update.submitted.1
  have own : (addId (modelWithMedia "maize") someMoment).getString "id" = some modelId := by decide +kernel
  rw [given, own] at addressed
  have stored : isUploaded update.stored = true := by
    have uploaded : ((asciiServer.serve Server.initial
        (.item (.post (provider "first") (some (modelWithMedia "wheat")) someMoment))
        fun _ => .plain).2.store.lookup modelId).all isUploaded = true := by decide +kernel
    have present := update.present
    rw [← Option.some.inj addressed] at present
    rwa [present, Option.all_some] at uploaded
  have gives : givesMedia (modelWithMedia "maize") = true := by decide +kernel
  cases update.first with
  | some found => exact .inl (by rw [given, gives])
  | none =>
      have unset : (modelWithMedia "maize").get? "dataUploadStatus" = none := rfl
      simp only [UploadFollows, given, unset]
      exact fun _ => stored

def lateMedia : List (Request × (Nat → Choice)) :=
  [(.item (.post (provider "first") (some (modelBody "wheat")) someMoment), fun _ => .plain),
    (.item (.put (provider "first") (some (modelWithMedia "maize")) someMoment), fun _ => .plain)]

theorem renamed_upload_stays_false :
    asciiServer.Meets (RequestAdmitted fun _ _ => true) Server.initial lateMedia ∧
      ¬StatusFollowsMedia asciiServer lateMedia := by
  have updated : admitsBody (fun _ _ => true) (some (modelWithMedia "maize")) = true := by decide +kernel
  have admitted : asciiServer.Meets (RequestAdmitted fun _ _ => true) Server.initial lateMedia :=
    ⟨admitted_modelBody, updated, trivial⟩
  have facts : ((asciiServer.serveAll Server.initial lateMedia).store.lookup modelId).any (fun document =>
      decide (itemTypeAiModel ∈ fieldTexts document ["type"]) && hasMedia document && !isUploaded document) = true := by
    decide +kernel
  obtain ⟨document, stored, holds⟩ := (Option.any_eq_true _ _).mp facts
  simp only [Bool.and_eq_true, decide_eq_true_eq, Bool.not_eq_true'] at holds
  obtain ⟨⟨typed, media⟩, status⟩ := holds
  refine ⟨admitted, fun follows => ?_⟩
  obtain ⟨type, catalogued⟩ := allCatalogued_of_run admitted modelId document stored
  obtain rfl : .aiModel = type := catalogued.mem_iff.mp typed
  have uploaded := (follows modelId document _ stored catalogued (by decide)).1 media
  rw [isUploaded, uploaded] at status
  cases status

end Tgdex.Properties
