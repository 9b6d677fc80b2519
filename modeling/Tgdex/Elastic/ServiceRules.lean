import Tgdex.Elastic.Service

namespace Tgdex.Elastic

open Tgdex.Data Tgdex.Java Tgdex.Effects

/-! # Rules for the operations of the service

For each operation: what every call of a task that starts with it satisfies,
and what a run of such a task ensures when it has the index to itself. -/

variable {α : Type} {engine : Engine}

theorem ensures_await {call : Call} {resume : Reply call → Statics → Work α} {world : World Index Statics}
    {post : α → World Index Statics → Prop}
    (each : ∀ choice reply store, engine.execute call choice world.store = (reply, store) →
      (resume reply (receive call reply world.shared)).Ensures engine.backend
        ⟨store, receive call reply world.shared⟩ post) :
    (Task.await call resume).Ensures engine.backend world post :=
  fun choice => each choice _ _ rfl

theorem always_getSingleDocument
    {P : (call : Call) → (Reply call → Statics → Work α) → Prop} {model : QueryModel}
    {next : Settled (ElasticsearchResponse × Statics) → Work α}
    (lookup : ∀ query, Converts model query →
      P (.singleSearch query) fun reply statics => next (Future.delivered (singleResult reply statics)))
    (rest : ∀ settled, (next settled).Always P) : ((getSingleDocument model).bind next).Always P := by
  simp only [getSingleDocument, performSingleSearch]
  split
  · exact rest _
  · rename_i query converted
    exact ⟨lookup query converted, fun reply statics => rest _⟩

theorem getSingleDocument_ends {model : QueryModel} {query : Query} (converted : Converts model query)
    (reply : Except String SearchAnswer) (statics : Statics) :
    (getSingleDocument model).Ends (Future.delivered (singleResult reply statics)) := by
  have built : model.toElasticsearchQuery = .ok query := converted
  simp only [getSingleDocument, performSingleSearch, built]
  exact ⟨reply, statics, rfl⟩

theorem singleResult_success {reply : Except String SearchAnswer} {statics seen : Statics}
    {response : ElasticsearchResponse} (success : singleResult reply statics = .success (response, seen)) :
    seen = statics := by
  cases reply with
  | error reason => cases success
  | ok answer =>
      simp only [singleResult] at success
      split at success
      · cases success
        rfl
      · split at success
        · cases success
        · cases success
          rfl

/-- A continuation that takes no more than the hit count from the static fields. -/
def ByCount (next : Settled (ElasticsearchResponse × Statics) → Work α) : Prop :=
  ∀ response statics other, statics.totalHits = other.totalHits →
    next (.success (response, statics)) = next (.success (response, other))

theorem readsOwn_single {query : Query} {next : Settled (ElasticsearchResponse × Statics) → Work α}
    (byCount : ByCount next) :
    ReadsOwn countWritten Statics.totalHits (.singleSearch query) fun reply statics =>
      next (Future.delivered (singleResult reply statics)) := by
  intro reply statics other own
  cases reply with
  | error reason => rfl
  | ok answer =>
      have counts : countWritten (.singleSearch query) (.ok answer) =
          if answer.total = 0 then some 0 else answer.hits.head?.map fun _ => answer.total := rfl
      by_cases none : answer.total = 0
      · have both := own 0 (by rw [counts, if_pos none])
        simp only [singleResult, none, if_true, Future.delivered]
        exact byCount _ _ _ (both.1.trans both.2.symm)
      · cases first : answer.hits.head? with
        | none => simp only [singleResult, none, if_false, first]
        | some hit =>
            have both := own answer.total (by rw [counts, if_neg none, first]; rfl)
            simp only [singleResult, none, if_false, first, Future.delivered]
            exact byCount _ _ _ (both.1.trans both.2.symm)

/-- The document that a lookup may answer with, if there is any. -/
def Answers (hits : List Hit) : Option Hit → Prop
  | none => hits = []
  | some hit => hit ∈ hits

def responseOf : Option Hit → ElasticsearchResponse
  | none => {}
  | some hit => ⟨some hit.id, some (readSource hit.source)⟩

theorem counted_zero {hits : List Hit} : min hits.length trackTotalHitsUpTo = 0 ↔ hits = [] := by
  rw [← List.length_eq_zero_iff, trackTotalHitsUpTo]
  omega

theorem counted_one {hits : List Hit} : min hits.length trackTotalHitsUpTo = 1 ↔ hits.length = 1 := by
  rw [trackTotalHitsUpTo]
  omega

section

variable (engine : Engine) (query : Query) (index : Index) (ranking : Ranking) (aggregate : List Hit → Option JsonObject)
  (statics : Statics)

def lookupReply : Reply (.singleSearch query) :=
  .ok (engine.answer (some query) (List.take 1) ranking aggregate index)

def afterLookup : Statics :=
  receive (.singleSearch query) (lookupReply engine query index ranking aggregate) statics

variable {engine query index ranking}

theorem answered_nil (ranked : ranking.order (engine.hits (some query) index) = []) :
    singleResult (lookupReply engine query index ranking aggregate)
        (afterLookup engine query index ranking aggregate statics) =
      .success ({}, afterLookup engine query index ranking aggregate statics) ∧
    (afterLookup engine query index ranking aggregate statics).totalHits = 0 := by
  have replied : lookupReply engine query index ranking aggregate = .ok ⟨0, [], aggregate (engine.hits (some query) index)⟩ := by
    simp [lookupReply, Engine.answer, ranked]
  simp only [afterLookup, replied]
  exact ⟨rfl, rfl⟩

theorem answered_cons {first : Hit} {rest : List Hit}
    (ranked : ranking.order (engine.hits (some query) index) = first :: rest) :
    singleResult (lookupReply engine query index ranking aggregate)
        (afterLookup engine query index ranking aggregate statics) =
      .success (⟨some first.id, some (readSource first.source)⟩,
        afterLookup engine query index ranking aggregate statics) ∧
    (afterLookup engine query index ranking aggregate statics).totalHits =
      min (engine.hits (some query) index).length trackTotalHitsUpTo := by
  have perm := ranking.perm (engine.hits (some query) index)
  rw [ranked] at perm
  have positive : 0 < min (first :: rest).length trackTotalHitsUpTo := lt_min (by simp) (by decide)
  have nonzero : min (first :: rest).length trackTotalHitsUpTo ≠ 0 := Nat.ne_of_gt positive
  have replied : lookupReply engine query index ranking aggregate =
      .ok ⟨min (first :: rest).length trackTotalHitsUpTo, [first],
        aggregate (engine.hits (some query) index)⟩ := by
    simp [lookupReply, Engine.answer, ranked]
  have counted : countWritten (.singleSearch query) (lookupReply engine query index ranking aggregate) =
      some (min (first :: rest).length trackTotalHitsUpTo) := by
    rw [replied]
    exact if_neg nonzero
  refine ⟨?_, ?_⟩
  · rw [replied]
    exact if_neg nonzero
  · rw [← perm.length_eq]
    simp only [afterLookup, receive, counted, Option.getD_some]

variable (engine query index ranking)

theorem answered_head :
    singleResult (lookupReply engine query index ranking aggregate)
        (afterLookup engine query index ranking aggregate statics) =
      .success (responseOf (ranking.order (engine.hits (some query) index)).head?,
        afterLookup engine query index ranking aggregate statics) ∧
    (afterLookup engine query index ranking aggregate statics).totalHits =
      min (engine.hits (some query) index).length trackTotalHitsUpTo := by
  cases ranked : ranking.order (engine.hits (some query) index) with
  | nil =>
      have perm := ranking.perm (engine.hits (some query) index)
      rw [ranked] at perm
      obtain ⟨settled, count⟩ := answered_nil aggregate statics ranked
      exact ⟨settled, count.trans (by rw [← perm.length_eq]; rfl)⟩
  | cons first rest => exact answered_cons aggregate statics ranked

end

theorem answers_head (ranking : Ranking) (hits : List Hit) : Answers hits (ranking.order hits).head? := by
  have perm := ranking.perm hits
  cases ranked : ranking.order hits with
  | nil =>
      rw [ranked] at perm
      exact perm.nil_eq.symm
  | cons first rest =>
      rw [ranked] at perm
      exact perm.mem_iff.mp List.mem_cons_self

theorem ensures_getSingleDocument {model : QueryModel} {next : Settled (ElasticsearchResponse × Statics) → Work α}
    {world : World Index Statics} {post : α → World Index Statics → Prop}
    (failed : ∀ cause shared, (next (.failure cause)).Ensures engine.backend ⟨world.store, shared⟩ post)
    (answered : ∀ query first statics shared, Converts model query →
      Answers (engine.hits (some query) world.store) first →
      statics.totalHits = min (engine.hits (some query) world.store).length trackTotalHitsUpTo →
      (next (.success (responseOf first, statics))).Ensures engine.backend ⟨world.store, shared⟩ post) :
    ((getSingleDocument model).bind next).Ensures engine.backend world post := by
  simp only [getSingleDocument, performSingleSearch]
  split
  · exact failed _ world.shared
  · rename_i query converted
    refine ensures_await fun choice reply store executed => ?_
    cases choice with
    | fails reason =>
        cases executed
        exact failed _ _
    | answers ranking aggregate generatedId =>
        cases executed
        obtain ⟨settled, count⟩ := answered_head engine query world.store ranking aggregate world.shared
        change (next (Future.delivered (singleResult (lookupReply engine query world.store ranking aggregate)
          (afterLookup engine query world.store ranking aggregate world.shared)))).Ensures engine.backend
            ⟨world.store, _⟩ post
        rw [settled]
        exact answered query _ _ _ converted (answers_head ranking _) count

def Ranking.toFront (id : String) : Ranking where
  order hits := hits.filter (fun hit => hit.id == id) ++ hits.filter (fun hit => !(hit.id == id))
  perm hits := List.filter_append_perm _ hits

theorem toFront_order {query : Option Query} {index : Index} {hit : Hit} (member : hit ∈ engine.hits query index) :
    ∃ rest, (Ranking.toFront hit.id).order (engine.hits query index) = hit :: rest := by
  have here : hit ∈ (engine.hits query index).filter fun other => other.id == hit.id := by simp [member]
  cases front : (engine.hits query index).filter fun other => other.id == hit.id with
  | nil => simp [front] at here
  | cons first others =>
      have first_mem : first ∈ (engine.hits query index).filter fun other => other.id == hit.id := by simp [front]
      obtain ⟨found, named⟩ := List.mem_filter.mp first_mem
      have same : first = hit := by
        obtain ⟨id, source⟩ := first
        obtain ⟨hitId, hitSource⟩ := hit
        obtain rfl : id = hitId := by simpa using named
        have stored := (Engine.mem_hits.mp found).1
        have hitStored := (Engine.mem_hits.mp member).1
        simpa using stored.symm.trans hitStored
      exact ⟨others ++ (engine.hits query index).filter (fun other => !(other.id == hit.id)), by
        simp only [Ranking.toFront, front, same, List.cons_append]⟩

theorem ranking_of_answers {query : Option Query} {index : Index} {first : Option Hit}
    (answers : Answers (engine.hits query index) first) :
    ∃ ranking : Ranking, (ranking.order (engine.hits query index)).head? = first := by
  cases first with
  | none => exact ⟨.asStored, congrArg List.head? answers⟩
  | some hit =>
      obtain ⟨rest, ranked⟩ := toFront_order answers
      exact ⟨.toFront hit.id, congrArg List.head? ranked⟩

/-- A lookup may answer with any of the documents it finds, or say that there is none. -/
theorem of_ensures_getSingleDocument {model : QueryModel} {query : Query}
    {next : Settled (ElasticsearchResponse × Statics) → Work α} {world : World Index Statics}
    {post : α → World Index Statics → Prop} (converted : Converts model query)
    (ensured : ((getSingleDocument model).bind next).Ensures engine.backend world post) {first : Option Hit}
    (answers : Answers (engine.hits (some query) world.store) first) :
    ∃ statics, statics.totalHits = min (engine.hits (some query) world.store).length trackTotalHitsUpTo ∧
      (next (.success (responseOf first, statics))).Ensures engine.backend ⟨world.store, statics⟩ post := by
  obtain ⟨ranking, ranked⟩ := ranking_of_answers answers
  obtain ⟨settled, count⟩ := answered_head engine query world.store ranking (fun _ => none) world.shared
  have built : model.toElasticsearchQuery = .ok query := converted
  refine ⟨_, count, ?_⟩
  simp only [getSingleDocument, performSingleSearch] at ensured
  rw [built] at ensured
  have goes : (next (Future.delivered (singleResult (lookupReply engine query world.store ranking (fun _ => none))
      (afterLookup engine query world.store ranking (fun _ => none) world.shared)))).Ensures engine.backend
      ⟨world.store, afterLookup engine query world.store ranking (fun _ => none) world.shared⟩ post :=
    ensured (.answers ranking (fun _ => none) "")
  rw [settled, ranked] at goes
  exact goes

theorem always_search {P : (call : Call) → (Reply call → Statics → Work α) → Prop} {model : QueryModel}
    {options : Options} {next : Settled (List ElasticsearchResponse × Statics) → Work α}
    (lookup : ∀ request, P (.search request options) fun reply statics =>
      next (Future.delivered (searchResult options reply statics)))
    (rest : ∀ settled, (next settled).Always P) : ((search model options).bind next).Always P := by
  simp only [search, executeSearch]
  split
  · exact rest _
  · rename_i request _
    exact ⟨lookup request, fun reply statics => rest _⟩

theorem ensures_createDocuments {wire : Wire} {document : JsonObject} {id : String}
    {next : Settled Unit → Work α} {world : World Index Statics} {post : α → World Index Statics → Prop}
    (carried : (wire.carry document).getString "id" = some id)
    (failed : ∀ cause shared, (next (.failure cause)).Ensures engine.backend ⟨world.store, shared⟩ post)
    (stored : ∀ shared, (next (.success ())).Ensures engine.backend
      ⟨world.store.insert id (wire.written document), shared⟩ post) :
    ((createDocuments wire document).bind next).Ensures engine.backend world post := by
  simp only [createDocuments, executeBulkIndex]
  rw [carried]
  refine ensures_await fun choice reply store executed => ?_
  cases choice with
  | fails reason =>
      cases executed
      exact failed _ _
  | answers ranking aggregate generatedId =>
      simp only [Engine.execute] at executed
      split at executed
      · cases executed
        exact stored _
      · cases executed
        exact failed _ _

theorem ensures_deleteDocument {id : String} {next : Settled Unit → Work α} {world : World Index Statics}
    {post : α → World Index Statics → Prop}
    (failed : ∀ cause shared, (next (.failure cause)).Ensures engine.backend ⟨world.store, shared⟩ post)
    (deleted : ∀ shared, id ∈ world.store →
      (next (.success ())).Ensures engine.backend ⟨world.store.erase id, shared⟩ post) :
    ((deleteDocument (some id)).bind next).Ensures engine.backend world post := by
  simp only [deleteDocument, Future.proxied, Future.compose]
  simp only [validateId]
  split
  · exact failed _ world.shared
  · refine ensures_await fun choice reply store executed => ?_
    cases choice with
    | fails reason =>
        cases executed
        exact failed _ _
    | answers ranking aggregate generatedId =>
        simp only [Engine.execute] at executed
        split at executed
        · rename_i present
          cases executed
          exact deleted _ present
        · cases executed
          exact failed _ _

theorem of_ensures_deleteDocument {id : String} {next : Settled Unit → Work α} {world : World Index Statics}
    {post : α → World Index Statics → Prop} (visible : trimsToEmpty id = false) (present : id ∈ world.store)
    (ensured : ((deleteDocument (some id)).bind next).Ensures engine.backend world post) :
    (next (.success ())).Ensures engine.backend ⟨world.store.erase id, world.shared⟩ post := by
  simp only [deleteDocument, Future.proxied, Future.compose] at ensured
  simp only [validateId, visible] at ensured
  have goes := ensured .plain
  simp only [Engine.backend, Engine.execute, Choice.plain, Option.getD_some, if_pos present] at goes
  exact goes

theorem ensures_executeExistenceCheck {id : String} {next : Settled Unit → Work α} {world : World Index Statics}
    {post : α → World Index Statics → Prop}
    (failed : ∀ cause shared, (next (.failure cause)).Ensures engine.backend ⟨world.store, shared⟩ post)
    (exists_ : ∀ shared, id ∈ world.store → (next (.success ())).Ensures engine.backend ⟨world.store, shared⟩ post) :
    ((executeExistenceCheck id).bind next).Ensures engine.backend world post := by
  refine ensures_await fun choice reply store executed => ?_
  cases choice with
  | fails reason =>
      cases executed
      exact failed _ _
  | answers ranking aggregate generatedId =>
      simp only [Engine.execute, Prod.mk.injEq] at executed
      obtain ⟨rfl, rfl⟩ := executed
      by_cases present : id ∈ world.store
      · simp only [present, decide_true]
        exact exists_ _ present
      · simp only [present, decide_false]
        exact failed _ _

theorem ensures_executeUpdate {stays : Stays} {id : String} {partialDocument : JsonObject} {next : Settled Unit → Work α}
    {world : World Index Statics} {post : α → World Index Statics → Prop}
    (failed : ∀ cause shared, (next (.failure cause)).Ensures engine.backend ⟨world.store, shared⟩ post)
    (updated : ∀ stored shared, world.store.lookup id = some stored →
      engine.accepts (stored.mergeDeep (partialDocument.encoded stays)) = true → (next (.success ())).Ensures engine.backend
        ⟨world.store.insert id (stored.mergeDeep (partialDocument.encoded stays)), shared⟩ post) :
    ((executeUpdate stays id partialDocument).bind next).Ensures engine.backend world post := by
  refine ensures_await fun choice reply store executed => ?_
  cases choice with
  | fails reason =>
      cases executed
      exact failed _ _
  | answers ranking aggregate generatedId =>
      simp only [Engine.execute] at executed
      split at executed
      · cases executed
        exact failed _ _
      · rename_i stored present
        split at executed
        · rename_i accepted
          cases executed
          exact updated stored _ present accepted
        · cases executed
          exact failed _ _

theorem ensures_updateDocument {wire : Wire} {id : String} {document : JsonObject}
    {next : Settled Unit → Work α} {world : World Index Statics} {post : α → World Index Statics → Prop}
    (failed : ∀ cause shared, (next (.failure cause)).Ensures engine.backend ⟨world.store, shared⟩ post)
    (updated : ∀ stored shared, world.store.lookup id = some stored →
      engine.accepts (stored.mergeDeep (wire.written document)) = true → (next (.success ())).Ensures engine.backend
        ⟨world.store.insert id (stored.mergeDeep (wire.written document)), shared⟩ post) :
    ((updateDocument wire id document).bind next).Ensures engine.backend world post := by
  simp only [updateDocument, Future.proxied, Future.compose]
  simp only [validateId]
  split
  · exact failed _ world.shared
  · simp only [Task.done_bind, Task.bind_assoc]
    refine ensures_executeExistenceCheck (fun cause shared => failed _ shared) fun shared _ => ?_
    exact ensures_executeUpdate (fun cause shared => failed _ shared) updated

theorem of_ensures_updateDocument {wire : Wire} {id : String} {document stored : JsonObject}
    {next : Settled Unit → Work α} {world : World Index Statics} {post : α → World Index Statics → Prop}
    (visible : trimsToEmpty id = false)
    (ensured : ((updateDocument wire id document).bind next).Ensures engine.backend world post)
    (present : world.store.lookup id = some stored)
    (accepted : engine.accepts (stored.mergeDeep (wire.written document)) = true) :
    (next (.success ())).Ensures engine.backend
      ⟨world.store.insert id (stored.mergeDeep (wire.written document)), world.shared⟩ post := by
  have member : id ∈ world.store := AList.lookup_isSome.mp (by rw [present]; rfl)
  simp only [updateDocument, Future.proxied, Future.compose, executeExistenceCheck, executeUpdate] at ensured
  simp only [validateId, visible] at ensured
  have checked := ensured .plain
  simp only [Engine.backend, Engine.execute, Choice.plain, member, decide_true] at checked
  have goes := checked .plain
  have fits : engine.accepts (stored.mergeDeep ((wire.carry document).encoded wire.stays)) = true := accepted
  simp only [Engine.execute, Choice.plain, present, fits, if_true] at goes
  exact goes

namespace Future

variable {β : Type}

/-- However its calls are answered, the future ends with a value or a failure. -/
def Settles (future : Future α) : Prop := ∀ settled, future.Ends settled → settled ≠ .pending

theorem settles_done {settled : Settled α} (ended : settled ≠ .pending) : Settles (.done settled) := by
  intro other same
  rwa [← (same : settled = other)]

theorem settles_failed (cause : Throwable) : Settles (failed cause : Future α) := settles_done (by simp)

theorem settles_bind {task : Work β} {next : β → Future α} (each : ∀ result, (next result).Settles) :
    Settles (task.bind next) := by
  intro settled ends
  obtain ⟨between, -, goes⟩ := Task.ends_bind.mp ends
  exact each between settled goes

/-- A call over the event bus settles: it is answered or times out. -/
theorem settles_proxied (future : Future α) : future.proxied.Settles := by
  refine settles_bind fun settled => settles_done ?_
  cases settled <;> simp [delivered]

theorem settles_compose {future : Future β} {next : β → Future α} (first : future.Settles)
    (each : ∀ value, (next value).Settles) : (future.compose next).Settles := by
  intro settled ends
  obtain ⟨between, reached, goes⟩ := Task.ends_bind.mp ends
  cases between with
  | success value => exact each value settled goes
  | failure cause => exact settles_failed cause settled goes
  | pending => exact absurd rfl (first .pending reached)

end Future

end Tgdex.Elastic
