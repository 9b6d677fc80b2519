import Tgdex.Data.Paths
import Tgdex.Properties.ItemTypes
import Tgdex.Properties.Ownership

namespace Tgdex.Properties

open Tgdex.Data Tgdex.Java Tgdex.Effects Tgdex.Elastic Tgdex.Query Tgdex.Items

/-! # What an update leaves of an item

The new item is merged into the stored document. -/

variable {engine : Engine} {config : Config} {caller : Caller} {body : Option JsonObject} {moment : Moment}
  {store : Index}

def firstTypeOf (document : JsonObject) : Option Json :=
  match document.get? "type" with
  | some (.arr (first :: _)) => some first
  | _ => none

/-- The fields that the API description calls non-updateable are as before. -/
structure FrameKept (before after : JsonObject) : Prop where
  id : after.get? "id" = before.get? "id"
  name : after.get? "name" = before.get? "name"
  type : firstTypeOf after = firstTypeOf before
  organizationId : firstTypeOf before = some (.str itemTypeDataBank) →
    after.get? "organizationId" = before.get? "organizationId"

/-- An update is rejected and changes nothing, or it keeps those fields of the
addressed document. -/
def KeepsNonUpdatable (body : Option JsonObject) (moment : Moment) (before : Index) (outcomes : List Outcome)
    (after : Server.State) : Prop :=
  (¬Succeeds outcomes ∧ after.store = before) ∨
    ∃ given id document updated, body = some given ∧ (addId given moment).getString "id" = some id ∧
      before.lookup id = some document ∧ after.store.lookup id = some updated ∧ FrameKept document updated

/-- The body says of those fields what the document says already; an empty name
or organization id says nothing. -/
structure BringsSame (given : JsonObject) (id : String) (document : JsonObject) : Prop where
  id : document.get? "id" = some (.str id)
  name : ∀ name, given.getString "name" = some name → name ≠ "" → document.get? "name" = some (.str name)
  type : firstTypeOf given = firstTypeOf document
  organizationId : firstTypeOf document = some (.str itemTypeDataBank) → ∀ organization,
    given.getString "organizationId" = some organization → organization ≠ "" →
      document.get? "organizationId" = some (.str organization)

/-- What an update leaves under a key that every class reads as text. -/
theorem get?_updated_text (update : Update engine config caller body moment store) (key : String)
    (reads : key ∈ ["id", "name", "accessPolicy", "organizationId"])
    (taken : key ∉ writtenKeys ∧ key ∉ ["dataUploadStatus", "publishStatus"]) :
    (update.stored.mergeDeep (config.wire.written update.item.toJson)).get? key =
      match notEmpty (update.submission.given.getString key) with
      | some text => some (.str text)
      | none => update.stored.get? key := by
  obtain ⟨readers, known, read⟩ := class_of_parse update.parsed
  have same : update.request.get? key = update.submission.given.get? key :=
    (update.submission.get?_request update.valid taken.2).trans (get?_submitted taken.1)
  have written := (toJson_text read (classes_read_text readers known key reads)).1
  rw [JsonObject.getString_congr same] at written
  have sent := config.wire.written_nullable written
  cases text : notEmpty (update.submission.given.getString key) with
  | some text =>
      rw [text] at sent
      exact JsonObject.get?_mergeDeep_scalar _ sent rfl
  | none =>
      rw [text] at sent
      rw [JsonObject.get?_mergeDeep, sent]
      rfl

theorem firstType_updated (update : Update engine config caller body moment store) :
    firstTypeOf (update.stored.mergeDeep (config.wire.written update.item.toJson)) =
      firstTypeOf update.submission.given := by
  obtain ⟨type, rest, -, given, -⟩ := class_of_request update.valid update.parsed
  have write : StoredAs config.wire update.item (update.stored.mergeDeep (config.wire.written update.item.toJson)) :=
    .inr ⟨update.stored, rfl⟩
  have written := get?_storedAs write (type_of_item update.valid update.parsed given).1 (Stays.entry_arr_cons _ _ _ _) rfl
  simp only [firstTypeOf, written, given, encodedItems, Json.encoded]

/-- Such a key is left as it was exactly when the body gives it its old text or
none that is visible. -/
theorem updated_text_kept_iff (update : Update engine config caller body moment store) (key : String)
    (reads : key ∈ ["id", "name", "accessPolicy", "organizationId"])
    (taken : key ∉ writtenKeys ∧ key ∉ ["dataUploadStatus", "publishStatus"]) :
    (update.stored.mergeDeep (config.wire.written update.item.toJson)).get? key = update.stored.get? key ↔
      ∀ text, update.submission.given.getString key = some text → text ≠ "" →
        update.stored.get? key = some (.str text) := by
  rw [get?_updated_text update key reads taken]
  cases given : update.submission.given.getString key with
  | none => simp [notEmpty]
  | some text =>
      by_cases empty : text = ""
      · simp [empty]
      · simp only [notEmpty_visible empty, Option.some.injEq, forall_eq']
        exact ⟨fun same _ => same.symm, fun same => (same empty).symm⟩

theorem keepsNonUpdatable_update (update : Update engine config caller body moment store) (shared : Statics) :
    KeepsNonUpdatable body moment store [sendSuccess config.held 200 "Success: Item updated successfully" update.item.toJson]
        ⟨update.after, shared⟩ ↔ BringsSame update.submission.given update.id update.stored := by
  obtain ⟨addressed, submitted⟩ := update.submitted
  have id : (update.stored.mergeDeep (config.wire.written update.item.toJson)).get? "id" = some (.str update.id) :=
    JsonObject.get?_mergeDeep_scalar _
      (config.wire.written_text submitted.id (ne_empty_of_isValidUuid submitted.valid)) rfl
  have name := updated_text_kept_iff update "name" (by simp) (by decide)
  have organization := updated_text_kept_iff update "organizationId" (by simp) (by decide)
  have type := firstType_updated update
  refine ⟨?_, ?_⟩
  · intro keeps
    rcases keeps with ⟨refused, -⟩ | ⟨given, other, document, updated, hasBody, own, before, after, kept⟩
    · exact absurd (succeeds_updated _ _) refused
    obtain rfl := Option.some.inj (update.submission.hasBody.symm.trans hasBody)
    obtain rfl := Option.some.inj (addressed.symm.trans own)
    obtain rfl := Option.some.inj (update.present.symm.trans before)
    obtain rfl := Option.some.inj (update.lookup_after.symm.trans after)
    exact ⟨kept.id.symm.trans id, name.mp kept.name, type.symm.trans kept.type,
      fun dataBank => organization.mp (kept.organizationId dataBank)⟩
  · intro brings
    refine .inr ⟨_, _, _, _, update.submission.hasBody, addressed, update.present, update.lookup_after, ?_⟩
    exact ⟨id.trans brings.id.symm, name.mpr brings.name, type.trans brings.type,
      fun dataBank => organization.mpr (brings.organizationId dataBank)⟩

/-- An update keeps the non-updateable fields exactly when it is refused, or its
body says of them what the addressed document says. -/
theorem non_updatable_fields_kept_iff (server : Server) (state : Server.State) (caller : Caller)
    (body : Option JsonObject) (moment : Moment) :
    (∀ choices, let served := server.serve state (.item (.put caller body moment)) choices
      KeepsNonUpdatable body moment state.store served.1 served.2) ↔
    ∀ update : Update server.engine server.config caller body moment state.store,
      BringsSame update.submission.given update.id update.stored := by
  apply served_put_iff _ keepsNonUpdatable_update
  intro outcomes shared refuses
  exact .inl ⟨refuses.not_succeeds, rfl⟩

/-- An update renames the model. -/
theorem update_renames_model :
    let served := asciiServer.serve withModel (.item (.put (provider "first") (some (modelBody "maize")) someMoment))
      fun _ => .plain
    asciiServer.Reachable withModel ∧ served.1.map Outcome.status = [200] ∧
      ¬KeepsNonUpdatable (some (modelBody "maize")) someMoment withModel.store served.1 served.2 := by
  intro served
  have facts : served.1.map Outcome.status = [200] ∧
      (withModel.store.lookup modelId).any (hasText "name" "wheat") = true ∧
      (served.2.store.lookup modelId).any (hasText "name" "maize") = true := by decide +kernel
  obtain ⟨statuses, before, after⟩ := facts
  refine ⟨⟨_, rfl⟩, statuses, fun keeps => ?_⟩
  rcases keeps with ⟨refused, -⟩ | ⟨given, id, document, updated, hasBody, addressed, stored, written, kept⟩
  · exact refused (succeeds_of_statuses statuses)
  · obtain rfl := Option.some.inj hasBody
    have own : (addId (modelBody "maize") someMoment).getString "id" = some modelId := by decide +kernel
    obtain rfl := Option.some.inj (own.symm.trans addressed)
    rw [stored, Option.any_some, hasText_iff] at before
    rw [written, Option.any_some, hasText_iff, kept.name, before] at after
    exact absurd (Json.str.inj (Option.some.inj after)) (by decide)

def resultsOf : Outcome → Option Json
  | .ended _ body => body.get? "results"
  | .failed _ _ => none

/-- The document of the id as the service returns it. -/
def readBack (store : Index) (id : String) : Option Json :=
  (store.lookup id).map fun document => .obj (readSource document).fields

/-- After an update that succeeds, the addressed document reads as the answer did. -/
def ReadsBack (body : Option JsonObject) (moment : Moment) (outcomes : List Outcome) (after : Server.State) : Prop :=
  Succeeds outcomes → ∀ given id, body = some given → (addId given moment).getString "id" = some id →
    ∃ stored answered, readBack after.store id = some stored ∧ outcomes.map resultsOf = [some answered] ∧
      Json.SameUpToNulls stored answered

/-- As it is answered the item has no summary and nothing empty that a read
would leave out, and as it is written it gives a value to whatever the document
gives one to, in objects at any depth. -/
structure Covers (config : Config) (item document : JsonObject) : Prop where
  plain : (item.encoded config.held).get? "_summary" = none
  full : Json.SameUpToNulls ((Json.obj (item.encoded config.held).fields).encoded .nowhere)
    (.obj (item.encoded config.held).fields)
  covered : Json.CoveredBy (.obj (document.remove "_summary").fields)
    (.obj ((config.wire.written item).remove "_summary").fields)

theorem sameUpToNulls_carry (wire : Wire) (item : JsonObject) (key : String) :
    Json.SameUpToNulls (.obj ((wire.carry item).remove key).fields) (.obj (item.remove key).fields) := by
  refine Json.sameUpToNulls_of_lookup fun name => ?_
  change (((wire.carry item).remove key).get? name).getD .null = ((item.remove key).get? name).getD .null
  rw [JsonObject.get?_remove, JsonObject.get?_remove, wire.carry_get?, JsonObject.given?]
  split
  · rfl
  · cases item.get? name with
    | none => rfl
    | some value => cases value <;> rfl

theorem sameUpToNulls_remove {object : JsonObject} {key : String} (absent : object.get? key = none) :
    Json.SameUpToNulls (.obj (object.remove key).fields) (.obj object.fields) := by
  refine Json.sameUpToNulls_of_lookup fun name => congrArg (fun found : Option Json => found.getD .null) ?_
  change (object.remove key).get? name = object.get? name
  rw [JsonObject.get?_remove]
  split
  · rename_i same
    rw [same, absent]
  · rfl

/-- An item without a summary reads alike as it is written and as it is answered. -/
theorem written_like_answered (wire : Wire) {stays : Stays} {item : JsonObject}
    (plain : (item.encoded stays).get? "_summary" = none) :
    Json.SameUpToNulls ((Json.obj ((wire.written item).remove "_summary").fields).encoded .nowhere)
      ((Json.obj (item.encoded stays).fields).encoded .nowhere) := by
  have written : ((wire.written item).remove "_summary").encoded .nowhere =
      ((wire.carry item).remove "_summary").encoded .nowhere := by
    rw [JsonObject.remove_encoded, JsonObject.remove_encoded, Wire.written, JsonObject.encoded_again]
  have absent : ((item.encoded stays).encoded .nowhere).get? "_summary" = none := by
    rw [JsonObject.get?_encoded, plain, Option.bind_none]
  have removed : Json.SameUpToNulls (.obj ((item.remove "_summary").encoded .nowhere).fields)
      (.obj ((item.encoded stays).encoded .nowhere).fields) := by
    rw [JsonObject.encoded_again] at absent ⊢
    rw [JsonObject.remove_encoded]
    exact sameUpToNulls_remove absent
  change Json.SameUpToNulls (.obj (((wire.written item).remove "_summary").encoded .nowhere).fields) _
  rw [written]
  exact (sameUpToNulls_carry wire item "_summary").encoded.trans removed

theorem read_merged (document written : JsonObject) :
    Json.SameUpToNulls (.obj (readSource (document.mergeDeep written)).fields)
      (((Json.obj (document.remove "_summary").fields).merge (.obj (written.remove "_summary").fields)).encoded
        .nowhere) := by
  refine Json.SameUpToNulls.encoded (Json.sameUpToNulls_of_lookup fun key => congrArg (fun found : Option Json => found.getD .null) ?_)
  change ((document.mergeDeep written).remove "_summary").get? key =
    ((document.remove "_summary").mergeDeep (written.remove "_summary")).get? key
  simp only [JsonObject.get?_remove, JsonObject.get?_mergeDeep]
  split <;> rfl

theorem reads_as_answered_iff (config : Config) (item document : JsonObject) :
    Json.SameUpToNulls (.obj (readSource (document.mergeDeep (config.wire.written item))).fields)
        (.obj (item.encoded config.held).fields) ↔ Covers config item document := by
  have merged := read_merged document (config.wire.written item)
  refine ⟨fun same => ?_, fun covers => ?_⟩
  · have plain : (item.encoded config.held).get? "_summary" = none := by
      have removed : (readSource (document.mergeDeep (config.wire.written item))).fields.lookup "_summary" = none := by
        change (readSource _).get? "_summary" = none
        rw [readSource, JsonObject.get?_encoded, JsonObject.get?_remove, if_pos rfl, Option.bind_none]
      have below := Json.sameUpToNulls_obj.mp same "_summary"
      rw [removed] at below
      have null : ((item.encoded config.held).get? "_summary").getD .null = .null := Json.sameUpToNulls_null below.symm
      cases shown : (item.encoded config.held).get? "_summary" with
      | none => rfl
      | some value =>
          rw [shown, Option.getD_some] at null
          rw [JsonObject.get?_encoded, null] at shown
          obtain ⟨_, -, entry⟩ := Option.bind_eq_some_iff.mp shown
          exact absurd entry (Json.entry_ne_null _ _ _)
    have again := same.encoded
    rw [encoded_readSource] at again
    have full := again.symm.trans same
    exact ⟨plain, full, Json.sameUpToNulls_merge_iff.mp
      ((merged.symm.trans again).trans (written_like_answered config.wire plain).symm)⟩
  · exact ((merged.trans (Json.sameUpToNulls_merge_iff.mpr covers.covered)).trans
      (written_like_answered config.wire covers.plain)).trans covers.full

theorem readsBack_update (update : Update engine config caller body moment store) (shared : Statics) :
    ReadsBack body moment [sendSuccess config.held 200 "Success: Item updated successfully" update.item.toJson]
        ⟨update.after, shared⟩ ↔ Covers config update.item.toJson update.stored := by
  obtain ⟨addressed, -⟩ := update.submitted
  have written : readBack update.after update.id =
      some (.obj (readSource (update.stored.mergeDeep (config.wire.written update.item.toJson))).fields) := by
    rw [readBack, update.lookup_after, Option.map_some]
  have shown : resultsOf (sendSuccess config.held 200 "Success: Item updated successfully" update.item.toJson) =
      some (.obj (update.item.toJson.encoded config.held).fields) := results_getResponse _ _ _ _ _
  rw [← reads_as_answered_iff]
  refine ⟨?_, ?_⟩
  · intro reads
    obtain ⟨stored, answered, back, results, same⟩ :=
      reads (succeeds_updated _ _) _ _ update.submission.hasBody addressed
    obtain rfl := Option.some.inj (written.symm.trans back)
    rw [List.map_singleton, shown] at results
    obtain rfl := Option.some.inj (List.singleton_inj.mp results)
    exact same
  · intro same _ given id hasBody named
    obtain rfl := Option.some.inj (update.submission.hasBody.symm.trans hasBody)
    obtain rfl := Option.some.inj (addressed.symm.trans named)
    exact ⟨_, _, written, congrArg (fun result => [result]) shown, same⟩

theorem readsBack_iff (server : Server) (state : Server.State) (caller : Caller) (body : Option JsonObject)
    (moment : Moment) :
    (∀ choices, let served := server.serve state (.item (.put caller body moment)) choices
      ReadsBack body moment served.1 served.2) ↔
    ∀ update : Update server.engine server.config caller body moment state.store,
      Covers server.config update.item.toJson update.stored := by
  apply served_put_iff _ readsBack_update
  intro outcomes shared refuses succeeds
  exact absurd succeeds refuses.not_succeeds

theorem ensures_returned {server : Server} {state : Server.State} (valid : ValidIds state.store) {id : String}
    {document : JsonObject} (stored : state.store.lookup id = some document) (reader : Caller) :
    (handleGetItem server.config reader (some id)).Ensures server.engine.backend state fun outcomes _ =>
      Succeeds outcomes → outcomes.map resultsOf = [some (.arr [.obj (readSource document).fields])] := by
  refine ensures_getFound valid stored reader (fun cause shared succeeds => absurd succeeds not_succeeds_failed) ?_
  intro statics shared some_ succeeds
  simp only [getItemResult, responseOf, some_, if_false] at succeeds ⊢
  split at succeeds
  · simp only [getOutcome, some_, if_false, Option.map_some, Option.getD_some, List.map_cons, List.map_nil]
    refine congrArg (fun result => [result]) ?_
    simp only [resultsOf, sendHits, send, JsonObject.get?_encoded]
    exact congrArg (fun document => some (Json.arr [document])) (encoded_readSource document)
  · exact absurd succeeds not_succeeds_failed
  · exact absurd succeeds (by simp [getOutcome, Succeeds])

/-- An update reads back as it was answered exactly when it is refused or its
item covers the stored document, and a read of a reachable index that is
answered returns just what is read back. -/
theorem update_reads_back_iff (server : Server) :
    (∀ state caller body moment,
      (∀ choices, let served := server.serve state (.item (.put caller body moment)) choices
        ReadsBack body moment served.1 served.2) ↔
      ∀ update : Update server.engine server.config caller body moment state.store,
        Covers server.config update.item.toJson update.stored) ∧
    ∀ state reader id stored choices, server.Reachable state → readBack state.store id = some stored →
      let read := server.serve state (.item (.get reader (some id))) choices
      Succeeds read.1 → read.1.map resultsOf = [some (.arr [stored])] := by
  refine ⟨readsBack_iff server, fun state reader id stored choices reachable back => ?_⟩
  obtain ⟨document, found, rfl⟩ := Option.map_eq_some_iff.mp back
  exact Task.ensures_iff_run.mp (ensures_returned (validIds_of_reachable reachable) found reader) choices

theorem update_reads_back_iff_model :
    ∃ stored, readBack withModel.store modelId = some stored ∧
      ∀ choices, let read := asciiServer.serve withModel (.item (.get (provider "first") (some modelId))) choices
        Succeeds read.1 → read.1.map resultsOf = [some (.arr [stored])] := by
  have here : (readBack withModel.store modelId).isSome = true := by decide +kernel
  obtain ⟨stored, back⟩ := Option.isSome_iff_exists.mp here
  exact ⟨stored, back, fun choices => (update_reads_back_iff asciiServer).2 withModel (provider "first") modelId stored
    choices ⟨_, rfl⟩ back⟩

def withCrop : Server.State :=
  asciiServer.serveAll Server.initial
    [(.item (.post (provider "first") (some ((modelBody "wheat").put "crop" (.str "rice"))) someMoment), fun _ => .plain)]

theorem update_keeps_old_field :
    let served := asciiServer.serve withCrop (.item (.put (provider "first") (some (modelBody "wheat")) someMoment))
      fun _ => .plain
    asciiServer.Reachable withCrop ∧ served.1.map Outcome.status = [200] ∧
      ¬ReadsBack (some (modelBody "wheat")) someMoment served.1 served.2 := by
  intro served
  have facts : served.1.map Outcome.status = [200] ∧
      (readBack served.2.store modelId).any
        (fun stored => (stored.valueAt [.key "crop"]).shape == .str "rice") = true ∧
      served.1.all (fun outcome => (resultsOf outcome).all
        fun answered => (answered.valueAt [.key "crop"]).shape == .null) = true := by decide +kernel
  obtain ⟨statuses, kept, answered_⟩ := facts
  refine ⟨⟨_, rfl⟩, statuses, fun reads => ?_⟩
  have succeeds := succeeds_of_statuses statuses
  have own : (addId (modelBody "wheat") someMoment).getString "id" = some modelId := by decide +kernel
  obtain ⟨stored, answered, back, results, same⟩ := reads succeeds _ _ rfl own
  obtain ⟨outcome, member, -⟩ := succeeds
  have result : resultsOf outcome = some answered := by
    have listed := List.mem_map_of_mem (f := resultsOf) member
    rw [results] at listed
    exact List.mem_singleton.mp listed
  rw [back, Option.any_some, beq_iff_eq] at kept
  have absent := List.all_eq_true.mp answered_ outcome member
  rw [result, Option.all_some, beq_iff_eq, ← same, kept] at absent
  cases absent

end Tgdex.Properties
