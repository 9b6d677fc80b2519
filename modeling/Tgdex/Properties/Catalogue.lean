import Tgdex.Catalogue.Service

namespace Tgdex.Properties

open Tgdex.Data Tgdex.Java Tgdex.Effects Tgdex.Catalogue
open Tgdex.Elastic (Settled)

/-! # The catalogue cache -/

variable {result : Json} {results : List Json} {response : Response} {cache after : Cache} {id : String}
  {info : JsonObject}

/-- The element is an object with an id. -/
def Identified (result : Json) : Prop := ∃ info id, objectOf result = .ok info ∧ info.getString "id" = some id

/-- The map from ids to objects that a whole response describes; the last object of an id counts. -/
def catalogueOf (results : List Json) : Cache := fun id =>
  results.reverse.findSome? fun result =>
    (objectOf result).toOption.filter fun info => info.getString "id" = some id

/-- How a refresh that gets this response settles, and the cache it leaves. -/
def refreshed (response : Response) (cache : Cache) : Settled Unit × Cache :=
  let ran := refreshCatalogue.run service.toBackend (fun _ => response) ⟨(), cache⟩
  (ran.1, ran.2.shared)

/-- What a refresh is to do with a response. -/
structure AllOrNothing (response : Response) (cache : Cache) (settled : Settled Unit) (after : Cache) : Prop where
  settles : settled ≠ .pending
  unchanged : response = .ok none ∨ (∃ cause, settled = .failure cause) → after = cache
  whole : ∀ results, response = .ok (some results) → after = catalogueOf results

theorem catalogueEntry_eq_ok {entry : String × JsonObject} :
    catalogueEntry result = .ok entry ↔ objectOf result = .ok entry.2 ∧ entry.2.getString "id" = some entry.1 := by
  obtain ⟨id, info⟩ := entry
  simp only [catalogueEntry, bind_eq_ok, nonNull_eq_ok, pure, Except.pure, Except.ok.injEq, Prod.mk.injEq]
  refine ⟨?_, ?_⟩
  · rintro ⟨_, cast, _, named, rfl, rfl⟩
    exact ⟨cast, named⟩
  · rintro ⟨cast, named⟩
    exact ⟨info, cast, id, named, rfl, rfl⟩

theorem exists_catalogueEntry_iff : (∃ entry, catalogueEntry result = .ok entry) ↔ Identified result := by
  simp only [catalogueEntry_eq_ok, Identified, Prod.exists]
  exact exists_comm

theorem completeAfter_ne_pending {entry : Json → Except Throwable (String × JsonObject)} :
    completeAfter entry results ≠ .pending ↔ ∀ result ∈ results, ∃ put, entry result = .ok put := by
  rw [← exists_mapM_eq_ok_iff, completeAfter]
  cases results.mapM entry <;> simp

theorem catalogueOf_cons (result : Json) (results : List Json) (id : String) :
    catalogueOf (result :: results) id = (catalogueOf results id).or
      ((objectOf result).toOption.filter fun info => info.getString "id" = some id) := by
  simp only [catalogueOf, List.reverse_cons, List.findSome?_append, List.findSome?_singleton]

theorem putResults_catalogueEntry (all : ∀ result ∈ results, Identified result) (cache : Cache) (id : String) :
    putResults catalogueEntry results cache id = (catalogueOf results id).or (cache id) := by
  induction results generalizing cache with
  | nil => rfl
  | cons result rest ih =>
      obtain ⟨info, key, cast, named⟩ := all result List.mem_cons_self
      have put : catalogueEntry result = .ok (key, info) := catalogueEntry_eq_ok.mpr ⟨cast, named⟩
      simp only [putResults, put, ih fun other member => all other (List.mem_cons_of_mem _ member), catalogueOf_cons,
        cast, Except.toOption, Option.or_assoc, Cache.put]
      congr 1
      by_cases same : id = key
      · subst same
        simp [Option.filter, named]
      · have differs : ¬key = id := fun equal => same equal.symm
        simp [Option.filter, named, same, differs]

theorem refresh_all_or_nothing_iff (response : Response) (cache : Cache) :
    AllOrNothing response cache (refreshed response cache).1 (refreshed response cache).2 ↔
      ∀ results, response = .ok (some results) → ∀ result ∈ results, Identified result := by
  have ran : refreshed response cache = (refreshCatalogueResult response, refreshCatalogueCache response cache) := rfl
  rw [ran]
  refine ⟨fun shown results given => ?_, fun identified => ?_⟩
  · have settles : refreshCatalogueResult response ≠ .pending := shown.settles
    rw [given, refreshCatalogueResult, completeAfter_ne_pending] at settles
    exact fun result member => exists_catalogueEntry_iff.mp (settles result member)
  · rcases response with cause | none | results
    · exact ⟨by simp [refreshCatalogueResult], fun _ => rfl, by simp⟩
    · exact ⟨by simp [refreshCatalogueResult], fun _ => rfl, by simp⟩
    · have all := identified results rfl
      have settles : completeAfter catalogueEntry results ≠ .pending :=
        completeAfter_ne_pending.mpr fun result member => exists_catalogueEntry_iff.mpr (all result member)
      refine ⟨settles, ?_, ?_⟩
      · rintro (absent | ⟨cause, failed⟩)
        · cases absent
        · simp only [refreshCatalogueResult, completeAfter] at failed
          split at failed <;> cases failed
      · intro own given
        cases given
        funext id
        simp [refreshCatalogueCache, putResults_catalogueEntry all, Cache.empty]

/-- Every entry is an object with the id it is kept under. -/
def RightCache (cache : Cache) : Prop := ∀ id info, cache id = some info → info.getString "id" = some id

/-- The objects before the first element that is none. -/
def objects : List Json → List JsonObject
  | [] => []
  | result :: rest =>
      match objectOf result with
      | .ok info => info :: objects rest
      | .error _ => []

/-- What the response leaves under the id it was asked for has that id. -/
def LeavesOwn (id : String) (response : Response) : Prop :=
  ∀ results, response = .ok (some results) → ∀ info, (objects results).getLast? = some info →
    info.getString "id" = some id

theorem RightCache.put (right : RightCache cache) (named : info.getString "id" = some id) :
    RightCache (cache.put id info) := by
  intro other stored found
  simp only [Cache.put] at found
  split at found
  · rename_i same
    cases found
    rw [same, named]
  · exact right other stored found

theorem RightCache.putResults (right : RightCache cache) : RightCache (putResults catalogueEntry results cache) := by
  induction results generalizing cache with
  | nil => exact right
  | cons result rest ih =>
      simp only [Catalogue.putResults]
      split
      · rename_i key info put
        exact ih (right.put (catalogueEntry_eq_ok.mp put).2)
      · exact right

theorem putResults_idEntry (id : String) (results : List Json) (cache : Cache) :
    putResults (idEntry id) results cache = (objects results).getLast?.elim cache (cache.put id) := by
  induction results generalizing cache with
  | nil => rfl
  | cons result rest ih =>
      cases cast : objectOf result with
      | error cause => simp [putResults, idEntry, objects, cast, bind, Except.bind]
      | ok info =>
          simp only [putResults, idEntry, objects, cast, bind, Except.bind, pure, Except.pure, ih]
          cases last : (objects rest).getLast? with
          | none =>
              have none : objects rest = [] := List.getLast?_eq_none_iff.mp last
              simp [none]
          | some final =>
              have kept : (info :: objects rest).getLast? = some final := by
                rw [List.getLast?_cons, last, Option.getD_some]
              rw [kept]
              funext other
              simp only [Option.elim_some, Cache.put]
              split <;> rfl

theorem RightCache.refresh (right : RightCache cache) (response : Response) :
    RightCache (refreshCatalogueCache response cache) := by
  rcases response with cause | none | results
  · exact right
  · exact right
  · exact @RightCache.putResults _ .empty fun _ _ found => nomatch found

theorem RightCache.lookup (right : RightCache cache) (own : LeavesOwn id response) :
    RightCache (idCatalogueInfoCache id response cache) := by
  rcases response with cause | none | results
  · exact right
  · exact right
  · simp only [idCatalogueInfoCache, putResults_idEntry]
    cases last : (objects results).getLast? with
    | none => exact right
    | some info => exact right.put (own results rfl info last)

def RightAnswer : Answer → Prop
  | .fetched id (.success info) => info.getString "id" = some id
  | _ => True

/-- As long as the cache is right whenever a handler runs, the operation comes to a right answer. -/
def Sound : Operation Answer → Prop
  | .done answer => RightAnswer answer
  | .await _ resume => ∀ reply cache, RightCache cache → Sound (resume reply cache)

def SoundPhase : Phase Call Reply Cache Answer → Prop
  | .running operation => Sound operation
  | .executed call _ resume => Sound (.await call resume)
  | .waiting call _ resume => Sound (.await call resume)

structure RightService (requests : Requests) : Prop where
  cache : RightCache requests.shared
  phases : ∀ slot phase, requests.phase slot = some phase → SoundPhase phase

/-- A response for an id that is about to be processed leaves the right object. -/
def AnswersOwn (requests : Requests) : Label Request Response → Prop
  | .receive slot => ∀ id response resume,
      requests.phase slot = some (.executed (.getCatalogueInfoForId id) response resume) → LeavesOwn id response
  | _ => True

theorem sound_operation (request : Request) : Sound (operation request) := by
  cases request with
  | refreshCatalogue => exact fun _ _ _ => trivial
  | fetchCatalogueInfo id =>
      simp only [operation, fetchCatalogueInfo, Task.await_bind, Sound]
      intro _ cache right
      cases found : cache id with
      | some info => exact right id info found
      | none =>
          simp only [idCatalogueInfo, Task.await_bind, Sound]
          intro response later right
          cases idCatalogueInfoResult id response with
          | success _ =>
              cases found : later id with
              | some info => exact right id info found
              | none => trivial
          | failure cause => trivial
          | pending => trivial

theorem RightService.setPhase {requests : Requests} (right : RightService requests) {slot : Nat}
    {phase : Phase Call Reply Cache Answer} (sound : SoundPhase phase) : RightService (requests.setPhase slot phase) := by
  refine ⟨right.cache, fun other found present => ?_⟩
  by_cases same : other = slot
  · subst same
    rw [Pool.setPhase_phase_self, Option.some.injEq] at present
    exact present ▸ sound
  · rw [Pool.setPhase_phase_other requests slot phase same] at present
    exact right.phases other found present

theorem rightService_step {requests next : Requests} {label : Label Request Response}
    (right : RightService requests) (own : AnswersOwn requests label)
    (stepped : service.Stepped requests label next) : RightService next := by
  cases stepped with
  | start fresh => exact right.setPhase (sound_operation _)
  | execute running =>
      have sound := right.phases _ _ running
      exact RightService.setPhase ⟨right.cache, right.phases⟩ sound
  | handle waiting =>
      have sound := right.phases _ _ waiting
      exact right.setPhase (sound _ _ right.cache)
  | @receive slot call response resume executed =>
      have sound := right.phases _ _ executed
      have cache : RightCache (receive call response requests.shared) := by
        cases call with
        | getIfPresent => exact right.cache
        | fetchCatalogueData => exact right.cache.refresh response
        | getCatalogueInfoForId id => exact right.cache.lookup (own id response resume executed)
      have received : RightService { requests with shared := receive call response requests.shared } :=
        ⟨cache, right.phases⟩
      exact received.setPhase sound

theorem fetched_right {initial : Cache} (right : RightCache initial) {schedule : List (Label Request Response)}
    {final : Requests} (guarded : service.Guarded AnswersOwn (Pool.initial () initial) schedule)
    (reached : service.runs (Pool.initial () initial) schedule = some final) {slot : Nat}
    (answered : final.result slot = some (.fetched id (.success info))) : info.getString "id" = some id := by
  have start : RightService (Pool.initial () initial) := ⟨right, by simp [Pool.initial]⟩
  have kept := service.runs_preserves (fun _ _ _ before own stepped => rightService_step before own stepped) start
    guarded reached
  simp only [Pool.result] at answered
  split at answered
  · rename_i answer present
    cases answered
    exact kept.phases slot _ present
  · cases answered

/-- A refresh is all or nothing exactly when every element of its response is an
object with an id.  While the responses for an id leave an object with that id,
every object that is fetched has the id it was asked for by. -/
theorem catalogue_cache_exact (response : Response) (cache initial : Cache) (schedule : List (Label Request Response))
    (final : Requests) :
    (AllOrNothing response cache (refreshed response cache).1 (refreshed response cache).2 ↔
        ∀ results, response = .ok (some results) → ∀ result ∈ results, Identified result) ∧
      (RightCache initial → service.Guarded AnswersOwn (Pool.initial () initial) schedule →
        service.runs (Pool.initial () initial) schedule = some final →
          ∀ slot id info, final.result slot = some (.fetched id (.success info)) → info.getString "id" = some id) :=
  ⟨refresh_all_or_nothing_iff response cache,
    fun right guarded reached _ _ _ answered => fetched_right right guarded reached answered⟩

def item (id : String) : JsonObject := ⟨[("id", .str id)]⟩

def lookupOf (id : String) (response : Response) : List (Label Request Response) :=
  [.start 0 (.fetchCatalogueInfo id), .execute 0 response, .receive 0, .handle 0, .execute 0 response, .receive 0,
    .handle 0]

def leavesOwn (id : String) : Response → Bool
  | .ok (some results) => (objects results).getLast?.all fun info => info.getString "id" == some id
  | _ => true

theorem leavesOwn_iff {id : String} {response : Response} : leavesOwn id response = true ↔ LeavesOwn id response := by
  rcases response with cause | none | results
  · exact iff_of_true rfl nofun
  · exact iff_of_true rfl nofun
  · simp [leavesOwn, LeavesOwn, Option.all_eq_true]

def answersOwn (requests : Requests) : Label Request Response → Bool
  | .receive slot =>
      match requests.phase slot with
      | some (.executed (.getCatalogueInfoForId id) response _) => leavesOwn id response
      | _ => true
  | _ => true

theorem answersOwn_of_check {requests : Requests} {label : Label Request Response}
    (check : answersOwn requests label = true) : AnswersOwn requests label := by
  cases label with
  | start slot request => trivial
  | execute slot response => trivial
  | handle slot => trivial
  | receive slot =>
      intro id response resume executed
      rw [answersOwn, executed] at check
      exact leavesOwn_iff.mp check

/-- A lookup of `a` and a refresh that brings `b` beside each other, and a lookup
of `b` that the refresh lets find its item. -/
def lookupsAndRefresh : List (Label Request Response) :=
  [.start 0 (.fetchCatalogueInfo "a"), .execute 0 (.ok none), .receive 0, .handle 0, .start 1 .refreshCatalogue,
    .execute 0 (.ok (some [.obj (item "b").fields, .obj (item "a").fields])),
    .execute 1 (.ok (some [.obj (item "b").fields])), .receive 1, .receive 0, .start 2 (.fetchCatalogueInfo "b"),
    .execute 2 (.ok none), .receive 2, .handle 2, .handle 1, .handle 0]

theorem catalogue_cache_exact_interleaved :
    ∃ final, service.runs (Pool.initial () .empty) lookupsAndRefresh = some final ∧
      final.result 0 = some (.fetched "a" (.success (item "a"))) ∧
      final.result 1 = some (.refreshed (.success ())) ∧
      final.result 2 = some (.fetched "b" (.success (item "b"))) ∧
      (item "a").getString "id" = some "a" ∧ (item "b").getString "id" = some "b" := by
  have own : service.Guarded (fun requests label => answersOwn requests label = true) (Pool.initial () .empty)
      lookupsAndRefresh := by decide +kernel
  have guarded : service.Guarded AnswersOwn (Pool.initial () .empty) lookupsAndRefresh :=
    System.Guarded.imp service (fun _ _ _ _ _ _ => trivial) (fun _ _ _ => answersOwn_of_check) trivial own
  have right : RightCache .empty := fun _ _ found => nomatch found
  obtain ⟨final, reached, first, second, third⟩ : ∃ final,
      service.runs (Pool.initial () .empty) lookupsAndRefresh = some final ∧
        final.result 0 = some (.fetched "a" (.success (item "a"))) ∧
        final.result 1 = some (.refreshed (.success ())) ∧
        final.result 2 = some (.fetched "b" (.success (item "b"))) := ⟨_, rfl, rfl, rfl, rfl⟩
  obtain ⟨-, fetched⟩ := catalogue_cache_exact (.ok none) .empty .empty lookupsAndRefresh final
  have right := fetched right guarded reached
  exact ⟨final, reached, first, second, third, right 0 "a" _ first, right 2 "b" _ third⟩

/-- The old entries are gone and the new ones in part, and the future never
settles; a lookup gives whatever the response for its id ends with. -/
theorem partial_refresh_and_wrong_entry :
    (refreshed (.ok (some [.obj (item "a").fields, .obj []])) (Cache.empty.put "b" (item "b"))).1 = .pending ∧
      (refreshed (.ok (some [.obj (item "a").fields, .obj []])) (Cache.empty.put "b" (item "b"))).2 "b" = none ∧
      ∃ final, service.runs (Pool.initial () .empty) (lookupOf "a" (.ok (some [.obj (item "b").fields]))) = some final ∧
        final.result 0 = some (.fetched "a" (.success (item "b"))) :=
  ⟨rfl, rfl, _, rfl, rfl⟩

end Tgdex.Properties
