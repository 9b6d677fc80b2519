import Tgdex.Properties.CreateRace

namespace Tgdex.Properties

open Tgdex.Data Tgdex.Java Tgdex.Effects Tgdex.Elastic Tgdex.Query Tgdex.Items

/-! # What a delete removes -/

def refersTo (document : JsonObject) (id : String) : Bool :=
  referenceFields.any fun field => (fieldTexts document [field]).contains id

/-- How many documents refer to the id. -/
def dependents (store : Index) (id : String) : Nat := (store.entries.filter fun entry => refersTo entry.2 id).length

def deleteLookup (id : String) : Elastic.Query :=
  .bool [] (("id" :: referenceFields).map fun field => .leaf (.term (field ++ ".keyword") id)) [] [] none

theorem converts_deleteQuery (id : String) : Converts (deleteQuery id) (deleteLookup id) := rfl

theorem catMapping_lookupFields :
    ∀ field ∈ "id" :: referenceFields, catMapping (field ++ ".keyword") = some ⟨[field], .keyword (some 256)⟩ := by
  decide +kernel

theorem leafHolds_lookupField (engine : Engine) (document : JsonObject) (id : String) {field : String}
    (looked : field ∈ "id" :: referenceFields) :
    engine.leafHolds document (.term (field ++ ".keyword") id) = true ↔
      id ∈ fieldTexts document [field] ∧ utf16Length id ≤ 256 := by
  simp [Engine.leafHolds, Engine.indexedTerms, catMapping_lookupFields field looked]

theorem matches_deleteLookup (engine : Engine) (document : JsonObject) (id : String) :
    engine.matchesQuery document (deleteLookup id) = true ↔
      utf16Length id ≤ 256 ∧ (id ∈ fieldTexts document ["id"] ∨ refersTo document id = true) := by
  rw [Engine.matchesQuery, deleteLookup, BoolQuery.holds_should_iff _ (by simp) (.inl rfl)]
  simp only [List.mem_map, exists_exists_and_eq_and, BoolQuery.holds_leaf]
  refine ⟨?_, ?_⟩
  · intro shown
    obtain ⟨field, looked, held⟩ := shown
    obtain ⟨found, short⟩ := (leafHolds_lookupField engine document id looked).mp held
    refine ⟨short, ?_⟩
    rcases List.mem_cons.mp looked with rfl | reference
    · exact .inl found
    · exact .inr (List.any_eq_true.mpr ⟨field, reference, List.contains_iff_mem.mpr found⟩)
  · intro shown
    obtain ⟨short, found | refers⟩ := shown
    · exact ⟨"id", by simp, (leafHolds_lookupField engine document id (by simp)).mpr ⟨found, short⟩⟩
    · obtain ⟨field, reference, found⟩ := List.any_eq_true.mp refers
      have looked : field ∈ "id" :: referenceFields := List.mem_cons_of_mem _ reference
      exact ⟨field, looked,
        (leafHolds_lookupField engine document id looked).mpr ⟨List.contains_iff_mem.mp found, short⟩⟩

theorem id_of_fieldTexts {store : Index} (valid : ValidIds store) {key id : String} {document : JsonObject}
    (stored : store.lookup key = some document) : id ∈ fieldTexts document ["id"] ↔ id = key := by
  rw [fieldTexts_of_text (valid key document stored).1, List.mem_singleton]

/-- Without a document of that id the lookup counts the documents that refer to it. -/
theorem length_hits_deleteLookup (engine : Engine) {store : Index} (valid : ValidIds store) {id : String}
    (absent : id ∉ store) (short : utf16Length id ≤ 256) :
    (engine.hits (some (deleteLookup id)) store).length = dependents store id := by
  rw [Engine.hits, List.length_map, dependents]
  refine congrArg List.length (List.filter_congr fun entry member => ?_)
  have stored : store.lookup entry.1 = some entry.2 := AList.mem_lookup_iff.mpr member
  rw [Bool.eq_iff_iff, Option.all_some, matches_deleteLookup, id_of_fieldTexts valid stored]
  refine ⟨?_, ?_⟩
  · intro shown
    obtain ⟨-, rfl | refers⟩ := shown
    · exact absurd (AList.lookup_isSome.mp (by rw [stored]; rfl)) absent
    · exact refers
  · exact fun refers => ⟨short, .inr refers⟩

/-- There was one document of that id, no other referred to it, and it is what
has been removed. -/
def RemovesOnly (id : String) (before after : Index) : Prop :=
  ∃ key document, before.lookup key = some document ∧ document.get? "id" = some (.str id) ∧
    (∀ other found, before.lookup other = some found → other ≠ key →
      found.get? "id" ≠ some (.str id) ∧ refersTo found id = false) ∧
    after = before.erase key

/-- A delete that succeeds removes no more than the addressed document, and one
that does not removes nothing. -/
def DeletesAddressed (id : String) (before : Index) (outcomes : List Outcome) (after : Server.State) : Prop :=
  (Succeeds outcomes → RemovesOnly id before after.store) ∧ (¬Succeeds outcomes → after.store = before)

/-- A delete of the id can only remove its document, or nothing. -/
def OnlyAddressed (caller : Caller) (id : String) (store : Index) : Prop :=
  checkIfTokenPresent caller ≠ none ∨ isBlank id = true ∨ id ∈ store ∨ 256 < utf16Length id ∨ dependents store id ≠ 1

variable {server : Server} {state : Server.State} {id : String}

theorem deletesAddressed_refused {outcomes : List Outcome} (refuses : Refuses outcomes) (shared : Statics) :
    DeletesAddressed id state.store outcomes ⟨state.store, shared⟩ :=
  ⟨fun succeeds => absurd succeeds refuses.not_succeeds, fun _ => rfl⟩

theorem removesOnly_of_hit {engine : Engine} {store : Index} (valid : ValidIds store) {hit : Hit}
    (only : engine.hits (some (deleteLookup id)) store = [hit]) (present : id ∈ store) :
    RemovesOnly id store (store.erase hit.id) := by
  obtain ⟨document, stored⟩ := Option.isSome_iff_exists.mp (AList.lookup_isSome.mpr present)
  have short : utf16Length id ≤ 256 := utf16Length_of_valid (valid id document stored).2
  have found : ∀ key other, store.lookup key = some other →
      (id ∈ fieldTexts other ["id"] ∨ refersTo other id = true) → key = hit.id := by
    intro key other here matched
    have member : (⟨key, other⟩ : Hit) ∈ engine.hits (some (deleteLookup id)) store := by
      refine Engine.mem_hits.mpr ⟨here, fun asked same => ?_⟩
      obtain rfl := Option.some.inj same
      exact (matches_deleteLookup engine other id).mpr ⟨short, matched⟩
    rw [only, List.mem_singleton] at member
    exact congrArg Hit.id member
  obtain rfl : id = hit.id := found id document stored (.inl ((id_of_fieldTexts valid stored).mpr rfl))
  refine ⟨hit.id, document, stored, (valid _ document stored).1, fun other another here differs => ⟨?_, ?_⟩, rfl⟩
  · intro carried
    exact differs (found other another here (.inl (by rw [fieldTexts_of_text carried]; simp)))
  · rw [← Bool.not_eq_true]
    exact fun refers => differs (found other another here (.inr refers))

def deleteFound (id : String) : Settled (ElasticsearchResponse × Statics) → Handler
  | .success (result, statics) =>
      (if statics.totalHits > 1 then Future.failed (.runtime "Item has associated entities and cannot be deleted")
      else if statics.totalHits < 1 then Future.failed (.runtime "Item not found for deletion")
      else (deleteDocument result.docId).bind fun settled => .done (deleteResult settled)).bind fun settled =>
        .done (deleteOutcome id settled)
  | .failure cause => .done (deleteOutcome id (.failure cause))
  | .pending => .done []

theorem deleteRoute_eq {caller : Caller} (token : checkIfTokenPresent caller = none) (visible : isBlank id = false) :
    deleteRoute caller (some id) = (getSingleDocument (deleteQuery id)).bind (deleteFound id) := by
  have named : notBlank (some id) = some id := by simp [notBlank, visible]
  simp only [deleteRoute, guarded, token, handleDeleteItem, named, deleteItem, visible, Bool.false_eq_true, if_false,
    Future.compose, Task.bind_assoc]
  refine congrArg (Effects.Task.bind _) (funext fun settled => ?_)
  rcases settled with ⟨result, statics⟩ | cause | _ <;> rfl

theorem refused_failure {cause : Throwable} : Refuses (deleteOutcome id (.failure cause)) :=
  refuses_single (Nat.le_refl 400)

theorem short_of_hit {engine : Engine} {store : Index} {hit : Hit}
    (member : hit ∈ engine.hits (some (deleteLookup id)) store) : utf16Length id ≤ 256 :=
  ((matches_deleteLookup engine hit.source id).mp ((Engine.mem_hits.mp member).2 _ rfl)).1

theorem succeeds_deleted : Succeeds (deleteOutcome id (.success ())) := ⟨_, List.mem_cons_self, by simp [respond, Outcome.status]⟩

/-- A delete refuses, or removes the only document that its lookup finds. -/
theorem ensures_deleteRoute {caller : Caller} {given : Option String} {post : List Outcome → Server.State → Prop}
    (refused : ∀ outcomes shared, Refuses outcomes → post outcomes ⟨state.store, shared⟩)
    (deleted : ∀ id hit shared, given = some id → checkIfTokenPresent caller = none → isBlank id = false →
      server.engine.hits (some (deleteLookup id)) state.store = [hit] →
      post (deleteOutcome id (.success ())) ⟨state.store.erase hit.id, shared⟩) :
    (deleteRoute caller given).Ensures server.engine.backend state post := by
  cases token : checkIfTokenPresent caller with
  | some outcome =>
      simp only [deleteRoute, guarded, token]
      exact refused _ state.shared (refuses_single (checkIfTokenPresent_some token))
  | none =>
      cases named : notBlank given with
      | none =>
          simp only [deleteRoute, guarded, token, handleDeleteItem, named]
          refine refused _ state.shared (refuses_single ?_)
          exact Nat.le_refl 400
      | some id =>
          obtain ⟨rfl, visible⟩ := Option.filter_eq_some_iff.mp named
          rw [Bool.not_eq_true'] at visible
          rw [deleteRoute_eq token visible]
          refine ensures_getSingleDocument (fun cause shared => refused _ shared refused_failure) ?_
          intro query first statics shared converted answers count
          obtain rfl := converted.unique (converts_deleteQuery id)
          simp only [deleteFound]
          split
          · exact refused _ shared refused_failure
          split
          · exact refused _ shared refused_failure
          have one : statics.totalHits = 1 := by omega
          obtain ⟨hit, alone⟩ := List.length_eq_one_iff.mp (counted_one.mp (count.symm.trans one))
          obtain rfl : first = some hit := by
            rw [alone] at answers
            cases first with
            | none => cases answers
            | some other => exact congrArg some (List.mem_singleton.mp answers)
          rw [Task.bind_assoc]
          exact ensures_deleteDocument (fun cause shared => refused _ shared refused_failure)
            fun shared _ => deleted id hit shared rfl token visible alone

theorem ensures_delete (valid : ValidIds state.store) {caller : Caller} (only : OnlyAddressed caller id state.store) :
    (deleteRoute caller (some id)).Ensures server.engine.backend state (DeletesAddressed id state.store) := by
  apply ensures_deleteRoute (fun outcomes shared refuses => deletesAddressed_refused refuses shared)
  rintro _ hit shared ⟨⟩ token visible alone
  have short := short_of_hit (by rw [alone]; exact List.mem_singleton_self hit)
  have present : id ∈ state.store := by
    by_contra absent
    have counted := length_hits_deleteLookup server.engine valid absent short
    rw [alone] at counted
    rcases only with missing | blank | here | long | others
    · exact missing token
    · simp [visible] at blank
    · exact absent here
    · omega
    · exact others counted.symm
  exact ⟨fun _ => removesOnly_of_hit valid alone present, fun failed => absurd succeeds_deleted failed⟩

/-- A delete of an id that no document has removes the only document that
refers to it. -/
theorem onlyAddressed_of_ensures (valid : ValidIds state.store) {caller : Caller}
    (ensured : (deleteRoute caller (some id)).Ensures server.engine.backend state (DeletesAddressed id state.store)) :
    OnlyAddressed caller id state.store := by
  by_contra open_
  simp only [OnlyAddressed, not_or, not_not, not_lt, Bool.not_eq_true] at open_
  obtain ⟨token, visible, absent, short, one⟩ := open_
  rw [deleteRoute_eq token visible] at ensured
  have length := (length_hits_deleteLookup server.engine valid absent short).trans one
  obtain ⟨hit, alone⟩ := List.length_eq_one_iff.mp length
  have member : hit ∈ server.engine.hits (some (deleteLookup id)) state.store := by simp [alone]
  have answers : Answers (server.engine.hits (some (deleteLookup id)) state.store) (some hit) := member
  obtain ⟨statics, count, found⟩ := of_ensures_getSingleDocument (converts_deleteQuery id) ensured answers
  have single : statics.totalHits = 1 := count.trans (counted_one.mpr length)
  simp only [deleteFound, single] at found
  rw [if_neg (by decide), if_neg (by decide), Task.bind_assoc] at found
  have stored := (Engine.mem_hits.mp member).1
  have uuid := (valid _ _ stored).2
  have removed := of_ensures_deleteDocument (not_blank_of_isValidUuid uuid).2
    (AList.lookup_isSome.mp (by rw [stored]; rfl)) found
  obtain ⟨key, document, here, carried, -⟩ := removed.1 succeeds_deleted
  obtain rfl : id = key := by
    have own := (valid key document here).1
    rw [own] at carried
    exact (Json.str.inj (Option.some.inj carried)).symm
  exact absent (AList.lookup_isSome.mp (by rw [here]; rfl))

/-- In a reachable state a delete removes the addressed document or nothing
exactly when the request is refused, or a document has the id, or the number of
documents that refer to it is not one. -/
theorem delete_only_addressed_iff (server : Server) (state : Server.State) (reachable : server.Reachable state)
    (caller : Caller) (id : String) :
    (∀ choices, let served := server.serve state (.item (.delete caller (some id))) choices
      DeletesAddressed id state.store served.1 served.2) ↔ OnlyAddressed caller id state.store := by
  have valid := validIds_of_reachable reachable
  refine ⟨?_, ?_⟩
  · intro served
    exact onlyAddressed_of_ensures valid (Task.ensures_iff_run.mpr served)
  · intro only choices
    exact Task.ensures_iff_run.mp (ensures_delete valid only) choices

def dependentApp : JsonObject := (appBody "first").put "provider" (.str "3d4e5f60-bbbb-4ccc-8ddd-1234567890ab")

def withDependent : Server.State :=
  asciiServer.serveAll Server.initial [(.item (.post (operator "first") (some dependentApp) someMoment), fun _ => .plain)]

theorem delete_only_addressed_iff_dependent :
    (∀ choices,
      let request := .item (.delete (operator "first") (some "2c3d4e5f-aaaa-4bbb-8ccc-0123456789ab"))
      let served := asciiServer.serve withDependent request choices
      DeletesAddressed "2c3d4e5f-aaaa-4bbb-8ccc-0123456789ab" withDependent.store served.1 served.2) ↔
      OnlyAddressed (operator "first") "2c3d4e5f-aaaa-4bbb-8ccc-0123456789ab" withDependent.store :=
  delete_only_addressed_iff asciiServer withDependent ⟨_, rfl⟩ (operator "first") "2c3d4e5f-aaaa-4bbb-8ccc-0123456789ab"

/-- No document has the id of the provider, and the delete of it removes the app. -/
theorem provider_delete_removes_app :
    let id := "3d4e5f60-bbbb-4ccc-8ddd-1234567890ab"
    let served := asciiServer.serve withDependent (.item (.delete (operator "second") (some id))) fun _ => .plain
    asciiServer.Reachable withDependent ∧ withDependent.store.keys = ["2c3d4e5f-aaaa-4bbb-8ccc-0123456789ab"] ∧
      served.1.map Outcome.status = [200] ∧ served.2.store.keys = [] ∧
      ¬DeletesAddressed id withDependent.store served.1 served.2 := by
  intro id served
  have facts : withDependent.store.keys = ["2c3d4e5f-aaaa-4bbb-8ccc-0123456789ab"] ∧
      (withDependent.store.lookup "2c3d4e5f-aaaa-4bbb-8ccc-0123456789ab").all
        (fun found => (found.getString "id").all (· != id)) = true ∧
      served.1.map Outcome.status = [200] ∧ served.2.store.keys = [] := by decide +kernel
  obtain ⟨keys, other, statuses, emptied⟩ := facts
  refine ⟨⟨_, rfl⟩, keys, statuses, emptied, fun addressed => ?_⟩
  obtain ⟨key, document, stored, carried, -⟩ := addressed.1 (succeeds_of_statuses statuses)
  have app : key ∈ withDependent.store.keys := AList.lookup_isSome.mp (by rw [stored]; rfl)
  rw [keys, List.mem_singleton] at app
  subst app
  simp [stored, JsonObject.getString, carried, javaText, id] at other

end Tgdex.Properties
