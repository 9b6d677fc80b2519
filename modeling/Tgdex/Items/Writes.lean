import Tgdex.Elastic.ServiceRules
import Tgdex.Items.Programs

namespace Tgdex.Items

open Tgdex.Data Tgdex.Java Tgdex.Effects Tgdex.Elastic Tgdex.Query

/-! # What a create or an update stores

Such a request refuses and leaves the index as it is, or it stores one document.
What it has passed until then is the record of the write. -/

variable {engine : Engine} {config : Config} {caller : Caller} {method : Method} {body : Option JsonObject}
  {moment : Moment} {world : World Index Statics} {post : List Outcome → World Index Statics → Prop}

def Submission.nameQuery (submission : Submission config caller method body moment) : Elastic.Query :=
  .bool [.leaf (.match_ "type" submission.itemType none none),
    .leaf (.match_ "name.keyword" submission.name none none)] [] [] [] none

theorem Submission.converts_nameModel (submission : Submission config caller method body moment) :
    Converts submission.nameModel submission.nameQuery := rfl

theorem Submission.validated_failure (submission : Submission config caller method body moment) (cause : Throwable)
    (request : JsonObject) : submission.validated (.failure cause) ≠ .success request := by
  intro success
  exact absurd (validator_failure submission.validator (settle_success success).2) (by decide)

theorem ensures_submission (submission : Submission config caller method body moment)
    (refused : ∀ outcomes shared, Refuses outcomes → post outcomes ⟨world.store, shared⟩)
    (goes : ∀ first statics shared request item handler,
      Answers (engine.hits (some submission.nameQuery) world.store) first →
      statics.totalHits = min (engine.hits (some submission.nameQuery) world.store).length trackTotalHitsUpTo →
      submission.validated (.success (responseOf first, statics)) = .success request → parse request = .ok item →
      storeItem config method item = .ok handler → handler.Ensures engine.backend ⟨world.store, shared⟩ post) :
    submission.program.Ensures engine.backend world post := by
  refine ensures_getSingleDocument ?_ ?_
  · intro cause shared
    rcases onValidated_cases config method (submission.validated (.failure cause)) with
      ⟨outcomes, done, refuses⟩ | ⟨request, item, handler, success, -⟩
    · rw [done]
      exact refused outcomes shared refuses
    · exact absurd success (submission.validated_failure cause request)
  · intro query first statics shared converted answers count
    obtain rfl := converted.unique submission.converts_nameModel
    rcases onValidated_cases config method (submission.validated (.success (responseOf first, statics))) with
      ⟨outcomes, done, refuses⟩ | ⟨request, item, handler, success, parsed, stored, continues⟩
    · rw [done]
      exact refused outcomes shared refuses
    · rw [continues]
      exact goes first statics shared request item handler answers count success parsed stored

theorem refuses_writeOutcome_failure (held : Stays) (status : Nat) (detail : String) (item : Item) (cause : Throwable) :
    Refuses (writeOutcome held status detail item (.failure cause)) := refuses_single (Nat.le_refl 400)

/-- A create that has passed every check. -/
structure Creation (engine : Engine) (config : Config) (caller : Caller) (body : Option JsonObject) (moment : Moment)
    (store : Index) where
  submission : Submission config caller .post body moment
  settled : Settled (ElasticsearchResponse × Statics)
  request : JsonObject
  item : Item
  id : String
  valid : submission.validated settled = .success request
  parsed : parse request = .ok item
  getId : item.getId = some id
  fresh : engine.hits (some (.leaf (.term "id.keyword" id))) store = []

def Creation.after {store : Index} (creation : Creation engine config caller body moment store) : Index :=
  store.insert creation.id (config.wire.written creation.item.toJson)

theorem Creation.submitted {store : Index} (creation : Creation engine config caller body moment store) :
    (addId creation.submission.given moment).getString "id" = some creation.id ∧
      Submitted creation.submission.principal creation.submission.given creation.item creation.id := by
  obtain ⟨id, addressed, submitted⟩ := creation.submission.submitted_item creation.valid creation.parsed
  obtain rfl : id = creation.id := Option.some.inj (submitted.getId.symm.trans creation.getId)
  exact ⟨addressed, submitted⟩

/-- A create that its name lookup has let through. -/
theorem ensures_post_looked (refused : ∀ outcomes shared, Refuses outcomes → post outcomes ⟨world.store, shared⟩)
    (created : ∀ (creation : Creation engine config caller body moment world.store) first statics shared,
      Answers (engine.hits (some creation.submission.nameQuery) world.store) first →
      statics.totalHits = min (engine.hits (some creation.submission.nameQuery) world.store).length trackTotalHitsUpTo →
      creation.settled = .success (responseOf first, statics) →
      post [sendSuccess config.held 201 "Success: Item created" creation.item.toJson] ⟨creation.after, shared⟩) :
    (createOrUpdate config caller .post body moment).Ensures engine.backend world post := by
  rcases createOrUpdate_cases config caller .post body moment with ⟨outcomes, done, refuses⟩ | ⟨submission, goes⟩
  · rw [done]
    exact refused outcomes world.shared refuses
  rw [goes]
  apply ensures_submission submission refused
  intro first statics shared request item handler answers hitCount valid parsed stored
  obtain ⟨id, -, submitted⟩ := submission.submitted_item valid parsed
  rcases storeItem_cases stored with ⟨-, rfl⟩ | ⟨update, impossible, -⟩
  · simp only [createItem, Future.compose]
    rw [submitted.getId]
    simp only [(not_blank_of_isValidUuid submitted.valid).1, Bool.false_eq_true, if_false, Task.bind_assoc]
    refine ensures_getSingleDocument (fun cause shared => refused _ shared (refuses_writeOutcome_failure _ _ _ _ _)) ?_
    intro query found own shared converted _ count
    obtain rfl := converted.unique (converts_termQuery "id.keyword" id)
    simp only
    split
    · exact refused _ shared (refuses_writeOutcome_failure _ _ _ _ _)
    · rename_i none
      have fresh := counted_zero.mp (count.symm.trans (Nat.eq_zero_of_not_pos none))
      have carried := JsonObject.getString_of_get? (config.wire.carry_text submitted.id)
      refine ensures_createDocuments carried
        (fun cause shared => refused _ shared (refuses_writeOutcome_failure _ _ _ _ _)) fun shared => ?_
      exact created ⟨submission, _, request, item, id, valid, parsed, submitted.getId, fresh⟩ first statics shared
        answers hitCount rfl
  · cases impossible

theorem ensures_post (refused : ∀ outcomes shared, Refuses outcomes → post outcomes ⟨world.store, shared⟩)
    (created : ∀ (creation : Creation engine config caller body moment world.store) shared,
      post [sendSuccess config.held 201 "Success: Item created" creation.item.toJson] ⟨creation.after, shared⟩) :
    (createOrUpdate config caller .post body moment).Ensures engine.backend world post :=
  ensures_post_looked refused fun creation _ _ shared _ _ _ => created creation shared

def updateLookup (id type : String) : Elastic.Query :=
  .bool [.leaf (.term "id.keyword" id), .leaf (.match_ "type.keyword" type none none)] [] [] [] none

theorem converts_updateQuery (id type : String) : Converts (updateQuery id type) (updateLookup id type) := rfl

/-- An update that has passed every check. -/
structure Update (engine : Engine) (config : Config) (caller : Caller) (body : Option JsonObject) (moment : Moment)
    (store : Index) where
  submission : Submission config caller .put body moment
  first : Option Hit
  request : JsonObject
  item : Item
  id : String
  types : List Json
  type : String
  stored : JsonObject
  answers : Answers (engine.hits (some submission.nameQuery) store) first
  valid : submission.validated (.success (responseOf first, {})) = .success request
  parsed : parse request = .ok item
  getId : item.getId = some id
  getType : item.getType = .ok (some types)
  firstType : firstText types = .ok (some type)
  typed : isBlank type = false
  found : engine.hits (some (updateLookup id type)) store ≠ []
  present : store.lookup id = some stored
  accepted : engine.accepts (stored.mergeDeep (config.wire.written item.toJson)) = true

def Update.after {store : Index} (update : Update engine config caller body moment store) : Index :=
  store.insert update.id (update.stored.mergeDeep (config.wire.written update.item.toJson))

theorem Update.lookup_after {store : Index} (update : Update engine config caller body moment store) :
    update.after.lookup update.id = some (update.stored.mergeDeep (config.wire.written update.item.toJson)) :=
  AList.lookup_insert store

theorem Update.submitted {store : Index} (update : Update engine config caller body moment store) :
    (addId update.submission.given moment).getString "id" = some update.id ∧
      Submitted update.submission.principal update.submission.given update.item update.id := by
  obtain ⟨id, addressed, submitted⟩ := update.submission.submitted_item update.valid update.parsed
  obtain rfl : id = update.id := Option.some.inj (submitted.getId.symm.trans update.getId)
  exact ⟨addressed, submitted⟩

theorem Submission.validated_put (submission : Submission config caller .put body moment)
    (response : ElasticsearchResponse) (statics other : Statics) :
    submission.validated (.success (response, statics)) = submission.validated (.success (response, other)) := by
  refine submission.validated_congr response fun document item => ?_
  rcases validator_cases submission.validator with ⟨-, alreadyExists, chosen⟩ | ⟨-, chosen⟩
  · rw [chosen]
    rfl
  · rw [chosen]
    rfl

theorem ensures_put (refused : ∀ outcomes shared, Refuses outcomes → post outcomes ⟨world.store, shared⟩)
    (updated : ∀ (update : Update engine config caller body moment world.store) shared,
      post [sendSuccess config.held 200 "Success: Item updated successfully" update.item.toJson] ⟨update.after, shared⟩) :
    (createOrUpdate config caller .put body moment).Ensures engine.backend world post := by
  rcases createOrUpdate_cases config caller .put body moment with ⟨outcomes, done, refuses⟩ | ⟨submission, goes⟩
  · rw [done]
    exact refused outcomes world.shared refuses
  rw [goes]
  apply ensures_submission submission refused
  intro first statics shared request item handler answers _ valid parsed stored
  have failed : ∀ cause shared,
      post (writeOutcome config.held 200 "Success: Item updated successfully" item (.failure cause)) ⟨world.store, shared⟩ :=
    fun cause shared => refused _ shared (refuses_writeOutcome_failure _ _ _ _ cause)
  rcases storeItem_cases stored with ⟨impossible, -⟩ | ⟨update, -, updates, rfl⟩
  · cases impossible
  rcases updateItem_cases updates with rfl | ⟨types, id, type, getType, firstType, getId, typed, rfl⟩
  · exact failed _ shared
  simp only [updateProgram, Future.compose]
  rw [Task.bind_assoc]
  refine ensures_getSingleDocument failed ?_
  intro query looked own shared converted _ count
  obtain rfl := converted.unique (converts_updateQuery id type)
  simp only
  split
  · exact failed _ shared
  · rename_i some_
    have found : engine.hits (some (updateLookup id type)) world.store ≠ [] :=
      fun none => some_ (count.trans (counted_zero.mpr none))
    refine ensures_updateDocument failed fun document shared present accepted => ?_
    rw [submission.validated_put _ statics {}] at valid
    exact updated ⟨submission, first, request, item, id, types, type, document, answers, valid, parsed, getId, getType,
      firstType, typed, found, present, accepted⟩ shared

/-- An update that has passed every check may be stored. -/
theorem of_ensures_put (update : Update engine config caller body moment world.store)
    (ensured : (createOrUpdate config caller .put body moment).Ensures engine.backend world post) :
    ∃ shared, post [sendSuccess config.held 200 "Success: Item updated successfully" update.item.toJson] ⟨update.after, shared⟩ := by
  rw [createOrUpdate_eq update.submission] at ensured
  obtain ⟨statics, -, validated⟩ :=
    of_ensures_getSingleDocument update.submission.converts_nameModel ensured update.answers
  rw [update.submission.validated_put _ statics {}, update.valid] at validated
  have submitted := update.submitted.2
  obtain ⟨notBlank, visible⟩ := not_blank_of_isValidUuid submitted.valid
  have stored : storeItem config .put update.item = .ok
      ((updateProgram config update.item update.id update.type).bind fun settled =>
        .done (writeOutcome config.held 200 "Success: Item updated successfully" update.item settled)) := by
    simp only [storeItem, updateItem_eq update.getType update.firstType update.getId notBlank update.typed]
    rfl
  have goes : parse update.request >>= storeItem config .put = .ok
      ((updateProgram config update.item update.id update.type).bind fun settled =>
        .done (writeOutcome config.held 200 "Success: Item updated successfully" update.item settled)) :=
    bind_eq_ok.mpr ⟨_, update.parsed, stored⟩
  simp only [onValidated, processItemCreationOrUpdate, goes, updateProgram, Future.compose, Task.bind_assoc] at validated
  obtain ⟨hit, rest, hits⟩ := List.exists_cons_of_ne_nil update.found
  have answers : Answers (engine.hits (some (updateLookup update.id update.type)) world.store) (some hit) := by
    rw [hits]
    exact List.mem_cons_self
  obtain ⟨own, count, looked⟩ :=
    of_ensures_getSingleDocument (converts_updateQuery update.id update.type) validated answers
  have some_ : own.totalHits ≠ 0 := fun zero => update.found (counted_zero.mp (count.symm.trans zero))
  simp only [some_, if_false] at looked
  have written := of_ensures_updateDocument visible looked update.present update.accepted
  exact ⟨own, written⟩

end Tgdex.Items
