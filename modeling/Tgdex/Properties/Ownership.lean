import Tgdex.Items.Writes
import Tgdex.Properties.Deletion

namespace Tgdex.Properties

open Tgdex.Data Tgdex.Java Tgdex.Effects Tgdex.Elastic Tgdex.Query Tgdex.Items

/-! # Who a private item belongs to -/

variable {server : Server} {state : Server.State} {id owner : String} {document : JsonObject}

def sub (caller : Caller) : Option String := caller.user.bind fun principal => principal.getString "sub"

/-- The document is private and has this owner, or none if the sub is empty. -/
structure PrivateOf (owner : String) (document : JsonObject) : Prop where
  policy : document.get? "accessPolicy" = some (.str "PRIVATE")
  ownerUserId : document.get? "ownerUserId" = (notEmpty (some owner)).map .str

theorem private_ignoringCase (unicode : Unicode) : equalsIgnoreCase unicode "private" "PRIVATE" = true :=
  equalsIgnoreCase_ascii unicode (by decide) (by decide) (by decide)

theorem ownershipCheck_private {unicode : Unicode} (owned : PrivateOf owner document) {subId : Option String}
    (passed : ownershipCheck unicode (some document) subId = .ok true) :
    ∃ own, subId = some own ∧ own ≠ "" ∧ equalsIgnoreCase unicode owner own = true := by
  have policy := JsonObject.getString_of_get? owned.policy
  simp only [ownershipCheck, bind_eq_ok, nonNull_eq_ok] at passed
  obtain ⟨source, same, passed⟩ := passed
  obtain rfl := Option.some.inj same
  rw [policy, Option.any_some, if_pos (private_ignoringCase unicode)] at passed
  simp only [bind_eq_ok, nonNull_eq_ok] at passed
  obtain ⟨own, given, passed⟩ := passed
  split at passed
  · cases passed
  · rename_i visible
    simp only [bind_eq_ok, nonNull_eq_ok, pure, Except.pure, Except.ok.injEq] at passed
    obtain ⟨other, stored, matched⟩ := passed
    have ownerUserId := owned.ownerUserId
    by_cases empty : owner = ""
    · simp [JsonObject.getString, ownerUserId, empty] at stored
    · rw [notEmpty_visible empty] at ownerUserId
      obtain rfl := Option.some.inj (stored.symm.trans (JsonObject.getString_of_get? ownerUserId))
      refine ⟨own, given, ?_, matched⟩
      intro same
      subst same
      exact visible rfl

theorem PrivateOf.read (owned : PrivateOf owner document) : PrivateOf owner (readSource document) where
  policy := readSource_text owned.policy (by decide) (by decide)
  ownerUserId := by
    rw [get?_readSource document (by decide), owned.ownerUserId]
    by_cases empty : owner = ""
    · simp [empty]
    · simp [notEmpty_visible empty, Stays.entry_str, empty]

def getLookup (id : String) : Elastic.Query := .bool [.leaf (.term "id.keyword" id)] [] [] [] none

theorem converts_getItemQuery (id : String) : Converts (mustQuery [termQuery "id.keyword" id]) (getLookup id) := rfl

theorem mem_hits_getLookup {engine : Engine} {store : Index} (valid : ValidIds store) {hit : Hit} :
    hit ∈ engine.hits (some (getLookup id)) store ↔ hit.id = id ∧ store.lookup id = some hit.source := by
  have holds : ∀ found, store.lookup hit.id = some found →
      (engine.matchesQuery found (getLookup id) = true ↔ hit.id = id) := by
    intro found stored
    obtain ⟨carried, uuid⟩ := valid hit.id found stored
    simp only [Engine.matchesQuery, getLookup, BoolQuery.holds_must_iff, forall_eq, BoolQuery.holds_leaf,
      Engine.leafHolds, Engine.indexedTerms, catMapping_id, fieldTexts_of_text carried, List.contains_iff_mem,
      List.mem_filter, List.mem_singleton, decide_eq_true_eq]
    refine ⟨?_, ?_⟩
    · exact fun matched => matched.1.symm
    · intro same
      subst same
      exact ⟨rfl, utf16Length_of_valid uuid⟩
  rw [Engine.mem_hits]
  refine ⟨?_, ?_⟩
  · intro shown
    obtain ⟨stored, matched⟩ := shown
    obtain rfl := (holds hit.source stored).mp (matched _ rfl)
    exact ⟨rfl, stored⟩
  · intro shown
    obtain ⟨rfl, stored⟩ := shown
    refine ⟨stored, fun asked same => ?_⟩
    obtain rfl := Option.some.inj same
    exact (holds hit.source stored).mpr rfl

theorem answer_getLookup {engine : Engine} {store : Index} (valid : ValidIds store)
    (stored : store.lookup id = some document) {first : Option Hit}
    (answers : Answers (engine.hits (some (getLookup id)) store) first) : first = some ⟨id, document⟩ := by
  cases first with
  | none =>
      have member : (⟨id, document⟩ : Hit) ∈ engine.hits (some (getLookup id)) store :=
        (mem_hits_getLookup valid).mpr ⟨rfl, stored⟩
      rw [(answers : _ = [])] at member
      cases member
  | some hit =>
      obtain ⟨rfl, found⟩ := (mem_hits_getLookup valid).mp answers
      obtain rfl := Option.some.inj (stored.symm.trans found)
      rfl

/-- The sub that a request for an item is checked with. -/
def checkedSub (reader : Caller) : Option String :=
  match reader.user with
  | none => some ""
  | some principal => principal.getString "sub"

theorem not_succeeds_failed {cause : Throwable} : ¬Succeeds (getOutcome (.failure cause)) := by
  simp [getOutcome, Succeeds, Outcome.status]

/-- A read fails, or it answers for the document of the id. -/
theorem ensures_getFound (valid : ValidIds state.store) (stored : state.store.lookup id = some document)
    (reader : Caller) {post : List Outcome → Server.State → Prop}
    (failed : ∀ cause shared, post (getOutcome (.failure cause)) ⟨state.store, shared⟩)
    (found : ∀ statics shared, statics.totalHits ≠ 0 → post (getOutcome
      (getItemResult server.config.unicode (checkedSub reader) (.success (responseOf (some ⟨id, document⟩), statics))))
        ⟨state.store, shared⟩) :
    (handleGetItem server.config reader (some id)).Ensures server.engine.backend state post := by
  have visible := (not_blank_of_isValidUuid (valid id document stored).2).1
  have named : notBlank (some id) = some id := by simp [notBlank, visible]
  have handled : handleGetItem server.config reader (some id) =
      (getSingleDocument (mustQuery [termQuery "id.keyword" id])).bind fun settled =>
        .done (getOutcome (getItemResult server.config.unicode (checkedSub reader) settled)) := by
    simp only [handleGetItem, named, getItem, getItemQueryModel, Option.getD_some, Task.bind_assoc]
    rfl
  rw [handled]
  refine ensures_getSingleDocument (fun cause shared => failed _ shared) ?_
  intro query first statics shared converted answers count
  obtain rfl := converted.unique (converts_getItemQuery id)
  obtain rfl := answer_getLookup valid stored answers
  exact found statics shared fun none => List.ne_nil_of_mem (answers : _ ∈ _) (counted_zero.mp (count.symm.trans none))

theorem ensures_get (valid : ValidIds state.store) (stored : state.store.lookup id = some document)
    (owned : PrivateOf owner document) (reader : Caller) :
    (handleGetItem server.config reader (some id)).Ensures server.engine.backend state fun outcomes _ =>
      Succeeds outcomes → ∃ own, sub reader = some own ∧ equalsIgnoreCase server.config.unicode owner own = true := by
  refine ensures_getFound valid stored reader (fun cause shared succeeds => absurd succeeds not_succeeds_failed) ?_
  intro statics shared some_
  simp only [getItemResult, responseOf, some_, if_false]
  cases checked : ownershipCheck server.config.unicode (some (readSource document)) (checkedSub reader) with
  | error cause => exact fun succeeds => absurd succeeds (by simp [getOutcome, Succeeds])
  | ok passed =>
      cases passed with
      | false => exact fun succeeds => absurd succeeds not_succeeds_failed
      | true =>
          intro _
          obtain ⟨own, given, visible, matched⟩ := ownershipCheck_private owned.read checked
          refine ⟨own, ?_, matched⟩
          simp only [checkedSub] at given
          simp only [sub]
          split at given
          · exact absurd (Option.some.inj given).symm visible
          · rename_i principal user
            simpa [user] using given

variable {creator : Caller} {body : JsonObject} {moment : Moment}

theorem ensures_created (own : sub creator = some owner) (policy : body.getString "accessPolicy" = some "PRIVATE")
    (named : (addId body moment).getString "id" = some id) :
    (Request.handler server.config (.item (.post creator (some body) moment))).Ensures server.engine.backend state
      fun outcomes after => Succeeds outcomes →
        ∃ document, PrivateOf owner document ∧ after.store.lookup id = some document := by
  apply ensures_post (fun outcomes shared refuses succeeds => absurd succeeds refuses.not_succeeds)
  intro creation shared _
  obtain ⟨addressed, submitted⟩ := creation.submitted
  rw [← Option.some.inj creation.submission.hasBody] at addressed submitted
  obtain rfl := Option.some.inj (addressed.symm.trans named)
  have principal : creation.submission.principal.getString "sub" = some owner := by
    simpa [sub, creation.submission.user] using own
  refine ⟨server.config.wire.written creation.item.toJson, ⟨?_, ?_⟩, AList.lookup_insert _⟩
  · exact server.config.wire.written_text (by rw [submitted.policy, policy]; rfl) (by decide)
  · rw [← principal]
    exact server.config.wire.written_nullable submitted.owner

/-- No update gets through to the item, and no delete finds it alone. -/
def Spares (server : Server) (id : String) (state : Server.State) : Request → Prop
  | .item (.put caller body moment) =>
      ∀ update : Update server.engine server.config caller body moment state.store, update.id ≠ id
  | .item (.delete caller given) => ∀ other hit, given = some other → checkIfTokenPresent caller = none →
      server.engine.hits (some (deleteLookup other)) state.store = [hit] → hit.id ≠ id
  | _ => True

theorem ensures_spared (request : Request) (spares : Spares server id state request) (valid : ValidIds state.store)
    (stored : state.store.lookup id = some document) :
    (request.handler server.config).Ensures server.engine.backend state fun _ after =>
      after.store.lookup id = some document := by
  cases request using Request.byWrite with
  | reads request reads => exact (ensures_of_onlyReads reads state).imp fun _ after same => by rw [same, stored]
  | post caller body moment =>
      refine ensures_post (fun _ _ _ => stored) fun creation _ => ?_
      have differs : id ≠ creation.id := by
        intro same
        subst same
        have present : creation.id ∈ state.store := AList.lookup_isSome.mp (by rw [stored]; rfl)
        exact hit_of_mem valid.indexed present creation.fresh
      exact (AList.lookup_insert_ne differs).trans stored
  | put caller body moment =>
      refine ensures_put (fun _ _ _ => stored) fun update _ => ?_
      exact (AList.lookup_insert_ne (spares update).symm).trans stored
  | delete caller given =>
      refine ensures_deleteRoute (fun _ _ _ => stored) fun other hit _ asked token _ alone => ?_
      exact (AList.lookup_erase_ne (spares other hit asked token alone).symm).trans stored

/-- An update that addresses another item spares this one. -/
theorem spares_put_other {caller : Caller} {other : String} (named : (addId body moment).getString "id" = some other)
    (differs : other ≠ id) : Spares server id state (.item (.put caller (some body) moment)) := by
  intro update same
  obtain ⟨addressed, -⟩ := update.submitted
  rw [← Option.some.inj update.submission.hasBody] at addressed
  exact differs ((Option.some.inj (named.symm.trans addressed)).trans same)

/-- The reader has no sub that differs from the owner's in case only. -/
def ToldApart (unicode : Unicode) (owner : String) (reader : Caller) : Prop :=
  ∀ own, sub reader = some own → equalsIgnoreCase unicode owner own = true → own = owner

/-- While no update or delete gets through to it, a private item stays as its
creator made it, and nobody else reads it. -/
theorem private_item_stays (server : Server) (before : Server.State) (reachable : server.Reachable before)
    (creator : Caller) (body : JsonObject) (moment : Moment) (choices : Nat → Choice) (owner id : String)
    (created : Succeeds (server.serve before (.item (.post creator (some body) moment)) choices).1)
    (own : sub creator = some owner) (policy : body.getString "accessPolicy" = some "PRIVATE")
    (named : (addId body moment).getString "id" = some id) (requests : List (Request × (Nat → Choice)))
    (spared : server.Meets (Spares server id)
      (server.serve before (.item (.post creator (some body) moment)) choices).2 requests) :
    let made := (server.serve before (.item (.post creator (some body) moment)) choices).2
    let final := server.serveAll made requests
    ∃ document, PrivateOf owner document ∧ made.store.lookup id = some document ∧
      final.store.lookup id = some document ∧
      ∀ reader choices, ToldApart server.config.unicode owner reader →
        Succeeds (server.serve final (.item (.get reader (some id))) choices).1 → sub reader = some owner := by
  intro made final
  have posted : (Request.handler server.config (.item (.post creator (some body) moment))).Ensures server.engine.backend
      before fun outcomes after => (Succeeds outcomes →
        ∃ document, PrivateOf owner document ∧ after.store.lookup id = some document) ∧ ValidIds after.store :=
    (ensures_created own policy named).and (ensures_validIds _ (validIds_of_reachable reachable))
  obtain ⟨stored, valid⟩ := Task.ensures_iff_run.mp posted choices
  obtain ⟨document, owned, stored⟩ := stored created
  have kept : ∀ state request, Spares server id state request →
      ValidIds state.store ∧ state.store.lookup id = some document →
      (request.handler server.config).Ensures server.engine.backend state
        fun _ after => ValidIds after.store ∧ after.store.lookup id = some document :=
    fun state request spares now => (ensures_validIds request now.1).and (ensures_spared request spares now.1 now.2)
  obtain ⟨validEnd, storedEnd⟩ := Server.serveAll_preserves
    (fun state => ValidIds state.store ∧ state.store.lookup id = some document) kept spared ⟨valid, stored⟩
  refine ⟨document, owned, stored, storedEnd, fun reader choices apart succeeds => ?_⟩
  obtain ⟨other, given, matched⟩ := Task.ensures_iff_run.mp (ensures_get validEnd storedEnd owned reader) choices succeeds
  rw [given, apart other given matched]

def appId : String := "2c3d4e5f-aaaa-4bbb-8ccc-0123456789ab"

def privateApp : JsonObject := (appBody "first").put "accessPolicy" (.str "PRIVATE")

def otherApp : JsonObject := (appBody "second").put "id" (.str "3d4e5f60-bbbb-4ccc-8ddd-1234567890ab")

def privatePost : Request := .item (.post (operator "first") (some privateApp) someMoment)

theorem private_item_stays_app :
    let made := (asciiServer.serve Server.initial privatePost fun _ => .plain).2
    let final := asciiServer.serveAll made [(.item (.put (operator "second") (some otherApp) someMoment), fun _ => .plain)]
    ∃ document, PrivateOf "first" document ∧ made.store.lookup appId = some document ∧
      final.store.lookup appId = some document ∧
      ∀ reader choices, ToldApart asciiUnicode "first" reader →
        Succeeds (asciiServer.serve final (.item (.get reader (some appId))) choices).1 → sub reader = some "first" := by
  have created : Succeeds (asciiServer.serve Server.initial privatePost fun _ => .plain).1 := by
    rw [Succeeds]
    decide +kernel
  have named : (addId otherApp someMoment).getString "id" = some "3d4e5f60-bbbb-4ccc-8ddd-1234567890ab" := by
    decide +kernel
  exact private_item_stays asciiServer Server.initial ⟨[], rfl⟩ (operator "first") privateApp someMoment
    (fun _ => .plain) "first" appId created (by decide +kernel) (by decide +kernel) (by decide +kernel)
    [(.item (.put (operator "second") (some otherApp) someMoment), fun _ => .plain)]
    ⟨spares_put_other named (by decide), trivial⟩

/-- Another user's update makes the item theirs. -/
theorem update_takes_over :
    let made := (asciiServer.serve Server.initial privatePost fun _ => .plain)
    let put := asciiServer.serve made.2 (.item (.put (operator "second") (some privateApp) someMoment)) fun _ => .plain
    let read := fun reader => asciiServer.serve put.2 (.item (.get (operator reader) (some appId))) fun _ => .plain
    made.1.map Outcome.status = [201] ∧ put.1.map Outcome.status = [200] ∧
      (read "second").1.map Outcome.status = [200] ∧ (read "first").1.map Outcome.status = [500] := by
  decide +kernel

end Tgdex.Properties
