import Tgdex.Catalogue.Owners
import Tgdex.Effects.Interference

namespace Tgdex.Properties

open Tgdex.Data Tgdex.Java Tgdex.Effects Tgdex.Catalogue.Owners

/-! # Whom a provider is said to belong to -/

/-- The response succeeded, and the first of its results is an object that names
the owner. -/
def NamesOwner (catHandler : AsyncResult) (owner : String) : Prop :=
  ∃ response fields first rest, catHandler = .succeeded response ∧ response.body = .json (.obj fields) ∧
    (⟨fields⟩ : JsonObject).get? "results" = some (.arr (.obj first :: rest)) ∧
    ((⟨first⟩ : JsonObject).getString "providerUserId").or ((⟨first⟩ : JsonObject).getString "ownerUserId") = some owner

theorem runOn_complete (owner : Option String) : (complete owner).runOn .pending = (.ok (), .completed owner) := rfl

theorem runOn_complete_again (first owner : Option String) :
    (complete owner).runOn (.completed first) = (.error .illegalState, .completed first) := rfl

/-- A completed promise stays as it is. -/
theorem completeWithEach_completed (results : List Json) (owner : Option String) :
    ((completeWithEach results).runOn (.completed owner)).2 = .completed owner := by
  cases results with
  | nil => rfl
  | cons result rest =>
      rw [completeWithEach]
      cases named : ownerOf result with
      | error cause => rw [Procedure.runOn_bind_of_error Procedure.runOn_attempt]
      | ok other =>
          rw [Procedure.runOn_bind_of_ok Procedure.runOn_attempt,
            Procedure.runOn_bind_of_error (runOn_complete_again owner other)]

theorem completeWithEach_cons (result : Json) (rest : List Json) :
    ((completeWithEach (result :: rest)).runOn .pending).2 =
      match ownerOf result with
      | .ok owner => .completed owner
      | .error _ => .pending := by
  rw [completeWithEach]
  cases named : ownerOf result with
  | error cause => rw [Procedure.runOn_bind_of_error Procedure.runOn_attempt]
  | ok owner =>
      rw [Procedure.runOn_bind_of_ok Procedure.runOn_attempt,
        Procedure.runOn_bind_of_ok (runOn_complete owner), completeWithEach_completed]

theorem bodyAsJsonObject_eq_ok {response : HttpResponse} {body : JsonObject} :
    bodyAsJsonObject response = .ok (some body) ↔ response.body = .json (.obj body.fields) := by
  simp only [bodyAsJsonObject]
  split
  · rename_i missing
    simp [missing]
  · rename_i null
    simp [null]
  · rename_i fields given
    simp only [given, Except.ok.injEq, Option.some.injEq, Body.json.injEq, Json.obj.injEq]
    exact ⟨fun same => congrArg JsonObject.fields same, fun same => congrArg JsonObject.mk same⟩
  · rename_i malformed
    simp [malformed]
  · rename_i value _ other given
    simp only [given, reduceCtorEq, Body.json.injEq, false_iff]
    exact fun same => other body.fields same

theorem responseResults_eq_ok {response : HttpResponse} {results : List Json} :
    responseResults response = .ok results ↔
      ∃ fields, response.body = .json (.obj fields) ∧
        (⟨fields⟩ : JsonObject).get? "results" = some (.arr results) := by
  simp only [responseResults, bind_eq_ok, nonNull_eq_ok]
  refine ⟨fun shown => ?_, fun shown => ?_⟩
  · obtain ⟨_, decoded, body, rfl, _, stored, rfl⟩ := shown
    exact ⟨body.fields, bodyAsJsonObject_eq_ok.mp decoded, JsonObject.getJsonArray_eq_ok.mp stored⟩
  · obtain ⟨fields, given, stored⟩ := shown
    exact ⟨_, bodyAsJsonObject_eq_ok.mpr given, ⟨fields⟩, rfl, _, JsonObject.getJsonArray_eq_ok.mpr stored, rfl⟩

theorem ownerOf_eq_ok {result : Json} {owner : String} :
    ownerOf result = .ok (some owner) ↔ ∃ fields, result = .obj fields ∧
      ((⟨fields⟩ : JsonObject).getString "providerUserId").or ((⟨fields⟩ : JsonObject).getString "ownerUserId") =
        some owner := by
  simp only [ownerOf, bind_eq_ok, pure, Except.pure, Except.ok.injEq]
  refine ⟨fun shown => ?_, fun shown => ?_⟩
  · obtain ⟨res, cast, named⟩ := shown
    cases result <;> cases cast
    exact ⟨_, rfl, named⟩
  · obtain ⟨fields, rfl, named⟩ := shown
    exact ⟨⟨fields⟩, rfl, named⟩

/-- The promise of a call that succeeded, by the results of its response. -/
theorem getProviderOwnerUserId_succeeded (response : HttpResponse) :
    getProviderOwnerUserId (.succeeded response) =
      match responseResults response with
      | .ok results => ((completeWithEach results).runOn .pending).2
      | .error _ => .pending := by
  rw [getProviderOwnerUserId, ownerHandler]
  cases found : responseResults response with
  | error cause => rw [Procedure.runOn_bind_of_error Procedure.runOn_attempt]
  | ok results => rw [Procedure.runOn_bind_of_ok Procedure.runOn_attempt]

theorem getProviderOwnerUserId_eq_completed {catHandler : AsyncResult} {owner : String} :
    getProviderOwnerUserId catHandler = .completed (some owner) ↔ NamesOwner catHandler owner := by
  refine ⟨fun completed => ?_, fun shown => ?_⟩
  · cases catHandler with
    | failed cause => cases completed
    | succeeded response =>
        rw [getProviderOwnerUserId_succeeded] at completed
        split at completed
        · rename_i results found
          cases results with
          | nil => cases completed
          | cons result rest =>
              rw [completeWithEach_cons] at completed
              split at completed
              · rename_i named
                cases completed
                obtain ⟨first, rfl, names⟩ := ownerOf_eq_ok.mp named
                obtain ⟨fields, given, stored⟩ := responseResults_eq_ok.mp found
                exact ⟨response, fields, first, rest, rfl, given, stored, names⟩
              · cases completed
        · cases completed
  · obtain ⟨response, fields, first, rest, rfl, given, stored, names⟩ := shown
    rw [getProviderOwnerUserId_succeeded, responseResults_eq_ok.mpr ⟨fields, given, stored⟩]
    simp only [completeWithEach_cons, ownerOf_eq_ok.mpr ⟨first, rfl, names⟩]

/-- The lookup never fails: the handler of a failed call looks into a response
that is not there, and leaves the promise as it is. -/
theorem getProviderOwnerUserId_ne_failed (catHandler : AsyncResult) (cause : DxException) :
    getProviderOwnerUserId catHandler ≠ .failed cause := by
  intro failed
  cases catHandler with
  | failed message => cases failed
  | succeeded response =>
      rw [getProviderOwnerUserId_succeeded] at failed
      split at failed
      · rename_i results found
        cases results with
        | nil => cases failed
        | cons result rest =>
            rw [completeWithEach_cons] at failed
            split at failed <;> cases failed
      · cases failed

theorem providerOwnerInfoResult_cases (catHandler : AsyncResult) :
    (∃ owner, NamesOwner catHandler owner ∧
      providerOwnerInfoResult (getProviderOwnerUserId catHandler) = .completed ()) ∨
    ((∀ owner, ¬NamesOwner catHandler owner) ∧
      providerOwnerInfoResult (getProviderOwnerUserId catHandler) = .pending) := by
  cases settled : getProviderOwnerUserId catHandler with
  | failed cause => exact absurd settled (getProviderOwnerUserId_ne_failed catHandler cause)
  | pending =>
      refine .inr ⟨fun owner names => ?_, rfl⟩
      rw [getProviderOwnerUserId_eq_completed.mpr names] at settled
      cases settled
  | completed owner =>
      cases owner with
      | some owner => exact .inl ⟨owner, getProviderOwnerUserId_eq_completed.mp settled, rfl⟩
      | none =>
          refine .inr ⟨fun owner names => ?_, rfl⟩
          rw [getProviderOwnerUserId_eq_completed.mpr names] at settled
          cases settled

section

variable (initial : OwnerCache) (events : List (Event OwnerCall OwnerReply OwnerRequest))

def Happened (call : OwnerCall) (reply : OwnerReply call) : Prop := ∃ slot, .called slot call reply ∈ events

/-- Where an owner is known from: the cache at the start, or a response to a
question for this very provider. -/
def Known (id owner : String) : Prop :=
  initial id = some owner ∨ ∃ catHandler, Happened events (.getRelationship id) catHandler ∧ NamesOwner catHandler owner

def RightOwners (cache : OwnerCache) : Prop := ∀ id owner, cache id = some owner → Known initial events id owner

/-- An owner that was named is in the cache, unless it was evicted. -/
def Kept (call : OwnerCall) (reply : OwnerReply call) (cache : OwnerCache) : Prop :=
  match call, reply with
  | .getRelationship id, catHandler =>
      (∃ owner, NamesOwner catHandler owner) → cache id = none → Happened events (.evict id) ()
  | .getIfPresent, _ | .evict _, _ => True

/-- An owner leaves the cache by an eviction of its entry only. -/
def Loses (before after : OwnerCache) : Prop :=
  ∀ id, before id ≠ none → after id = none → Happened events (.evict id) ()

/-- What a lookup may settle with, whatever its own response is. -/
def GoodOwner : OwnerAnswer → Prop
  | .owner id (.completed (some owner)) => Known initial events id owner
  | .owner id (.completed none) => Happened events (.evict id) ()
  | .owner id (.failed cause) => cause = badRequestError ∧ Happened events (.evict id) ()
  | .owner _ .pending | .evicted => True

variable {initial events}

theorem receive_getRelationship (id : String) (catHandler : AsyncResult) (cache : OwnerCache) :
    (∃ owner, NamesOwner catHandler owner ∧
      backend.receive (.getRelationship id) catHandler cache = cache.put id owner) ∨
    ((∀ owner, ¬NamesOwner catHandler owner) ∧ backend.receive (.getRelationship id) catHandler cache = cache) := by
  simp only [backend, receive, providerOwnerInfoCache]
  split
  · rename_i owner settled
    exact .inl ⟨owner, getProviderOwnerUserId_eq_completed.mp settled, rfl⟩
  · rename_i other
    exact .inr ⟨fun owner names => other owner (getProviderOwnerUserId_eq_completed.mpr names), rfl⟩

theorem relies_owners : Relies backend (Happened events) (RightOwners initial events) (Loses events) (Kept events) where
  kept := by
    intro call reply cache happened right
    cases call with
    | getIfPresent => exact right
    | evict id =>
        intro other owner found
        simp only [backend, receive, OwnerCache.evict] at found
        split at found
        · cases found
        · exact right other owner found
    | getRelationship id =>
        rcases receive_getRelationship id reply cache with ⟨owner, names, put⟩ | ⟨-, same⟩
        · intro other found present
          rw [put, OwnerCache.put] at present
          split at present
          · rename_i same
            cases present
            exact same ▸ .inr ⟨reply, happened, names⟩
          · exact right other found present
        · rwa [same]
  own := by
    intro call reply cache happened right
    cases call with
    | getIfPresent => trivial
    | evict id => trivial
    | getRelationship id =>
        rintro ⟨owner, names⟩ missing
        rcases receive_getRelationship id reply cache with ⟨other, -, put⟩ | ⟨none_, -⟩
        · rw [put, OwnerCache.put, if_pos rfl] at missing
          cases missing
        · exact absurd names (none_ owner)
  others := by
    intro call reply other answer cache happened kept
    cases call with
    | getIfPresent => trivial
    | evict id => trivial
    | getRelationship id =>
        intro named missing
        cases other with
        | getIfPresent => exact kept named missing
        | evict other =>
            simp only [backend, receive, OwnerCache.evict] at missing
            split at missing
            · rename_i same
              exact same ▸ happened
            · exact kept named missing
        | getRelationship other =>
            rcases receive_getRelationship other answer cache with ⟨owner, -, put⟩ | ⟨-, same⟩
            · rw [put, OwnerCache.put] at missing
              split at missing
              · cases missing
              · exact kept named missing
            · rw [same] at missing
              exact kept named missing
  moves := by
    intro call reply cache happened id present missing
    cases call with
    | getIfPresent => exact absurd missing present
    | evict other =>
        simp only [backend, receive, OwnerCache.evict] at missing
        split at missing
        · rename_i same
          exact same ▸ happened
        · exact absurd missing present
    | getRelationship other =>
        rcases receive_getRelationship other reply cache with ⟨owner, -, put⟩ | ⟨-, same⟩
        · rw [put, OwnerCache.put] at missing
          split at missing
          · cases missing
          · exact absurd missing present
        · rw [same] at missing
          exact absurd missing present
  refl := fun _ _ present missing => absurd missing present
  trans := by
    intro first second third early late id present missing
    by_cases between : second id = none
    · exact early id present between
    · exact late id between missing

/-- The second look at the cache. -/
theorem guarantees_cachedOwner {id : String} {cache : OwnerCache} (present : cache id ≠ none) :
    ((cachedOwner id).bind fun settled => .done (.owner id settled) : Lookup OwnerAnswer).Guarantees (Happened events)
      (RightOwners initial events) (Loses events) (Kept events) (GoodOwner initial events) cache := by
  intro _ later _ right _ loses
  simp only [Task.done_bind]
  cases found : later id with
  | some owner => exact right id owner found
  | none => exact loses id present found

theorem guarantees_lookup (request : OwnerRequest) (cache : OwnerCache) :
    (lookup request).Guarantees (Happened events) (RightOwners initial events) (Loses events) (Kept events)
      (GoodOwner initial events) cache := by
  cases request with
  | evict id => exact fun _ _ _ _ _ _ => trivial
  | getProviderOwnerId id =>
      intro _ cache _ _ _ _
      cases found : cache id with
      | some owner =>
          simp only [found]
          exact guarantees_cachedOwner (by rw [found]; exact Option.some_ne_none owner)
      | none =>
          simp only [found, Task.await_bind]
          intro catHandler later _ _ kept _
          rcases providerOwnerInfoResult_cases catHandler with ⟨owner, names, settled⟩ | ⟨-, settled⟩
          · simp only [settled, afterOwnerInfo, fromCache]
            cases present : later id with
            | some other => exact guarantees_cachedOwner (by rw [present]; exact Option.some_ne_none other)
            | none => exact ⟨rfl, kept ⟨owner, names⟩ present⟩
          · simp only [settled, afterOwnerInfo]
            trivial

end

theorem path_of_cachedOwner {id : String} {exchanges : List (Sigma OwnerReply)} {answer : OwnerAnswer}
    (goes : Task.Reaches ((cachedOwner id).bind fun settled => .done (.owner id settled)) exchanges (.done answer)) :
    exchanges = [⟨.getIfPresent, ()⟩] ∧ ∃ found, answer = .owner id (.completed found) := by
  cases exchanges with
  | nil => cases goes
  | cons first rest =>
      obtain ⟨_, reply⟩ := first
      obtain ⟨_, cache, same, onward⟩ := goes
      cases same
      cases rest with
      | nil =>
          cases onward
          exact ⟨rfl, cache id, rfl⟩
      | cons second others =>
          obtain ⟨_, _, more, -⟩ := onward
          cases more

/-- A lookup asks the catalogue server once, when the cache has no owner, and is
never answered exactly when the response names nobody. -/
theorem path_of_lookup {id : String} {exchanges : List (Sigma OwnerReply)} {answer : OwnerAnswer}
    (goes : (lookup (.getProviderOwnerId id)).Reaches exchanges (.done answer)) :
    ∃ settled, answer = .owner id settled ∧ (settled = .pending ↔
      ∃ catHandler, (⟨.getRelationship id, catHandler⟩ : Sigma OwnerReply) ∈ exchanges ∧
        ∀ owner, ¬NamesOwner catHandler owner) := by
  cases exchanges with
  | nil => cases goes
  | cons first rest =>
      obtain ⟨_, reply⟩ := first
      obtain ⟨_, cache, same, onward⟩ := goes
      cases same
      cases found : cache id with
      | some owner =>
          simp only [found] at onward
          obtain ⟨rfl, owner, rfl⟩ := path_of_cachedOwner onward
          exact ⟨_, rfl, by simp⟩
      | none =>
          simp only [found, Task.await_bind] at onward
          cases rest with
          | nil => cases onward
          | cons second others =>
              obtain ⟨_, catHandler⟩ := second
              obtain ⟨_, later, same, onward⟩ := onward
              cases same
              rcases providerOwnerInfoResult_cases catHandler with ⟨owner, names, settled⟩ | ⟨nobody, settled⟩
              · simp only [settled, afterOwnerInfo, fromCache] at onward
                cases present : later id with
                | some other =>
                    simp only [present] at onward
                    obtain ⟨rfl, told, rfl⟩ := path_of_cachedOwner onward
                    refine ⟨_, rfl, iff_of_false nofun ?_⟩
                    rintro ⟨answered, member, nobody⟩
                    obtain rfl : answered = catHandler := by simpa using member
                    exact nobody owner names
                | none =>
                    simp only [present, Task.done_bind] at onward
                    cases others with
                    | nil =>
                        cases onward
                        refine ⟨_, rfl, iff_of_false nofun ?_⟩
                        rintro ⟨answered, member, nobody⟩
                        obtain rfl : answered = catHandler := by simpa using member
                        exact nobody owner names
                    | cons third others =>
                        obtain ⟨_, _, more, -⟩ := onward
                        cases more
              · simp only [settled, afterOwnerInfo, Task.done_bind] at onward
                cases others with
                | nil =>
                    cases onward
                    exact ⟨_, rfl, iff_of_true rfl ⟨catHandler, by simp, nobody⟩⟩
                | cons third others =>
                    obtain ⟨_, _, more, -⟩ := onward
                    cases more

/-- What a lookup settles with: an owner that is known for this provider, no owner
or a bad request after an eviction of its entry only, and nothing at all exactly
when the catalogue server was asked and its response names nobody. -/
structure OwnerTold (initial : OwnerCache) (events : List (Event OwnerCall OwnerReply OwnerRequest)) (slot : Nat)
    (id : String) (settled : Promise DxException (Option String)) : Prop where
  completed : ∀ owner, settled = .completed (some owner) → Known initial events id owner
  vanished : settled = .completed none → Happened events (.evict id) ()
  failed : ∀ cause, settled = .failed cause → cause = badRequestError ∧ Happened events (.evict id) ()
  pending : settled = .pending ↔ ∃ catHandler, .called slot (.getRelationship id) catHandler ∈ events ∧
    ∀ owner, ¬NamesOwner catHandler owner

/-- However lookups and evictions interleave, nobody is told of an owner of
another provider, and a lookup whose response names nobody is never answered. -/
theorem owners_known (initial : OwnerCache) (schedule : List (Label OwnerRequest AsyncResult)) (final : Lookups)
    (reached : service.runs (Pool.initial () initial) schedule = some final) :
    RightOwners initial (service.events (Pool.initial () initial) schedule) final.shared ∧
      ∀ slot id answer, .started slot (.getProviderOwnerId id) ∈ service.events (Pool.initial () initial) schedule →
        final.result slot = some answer → ∃ settled, answer = .owner id settled ∧
          OwnerTold initial (service.events (Pool.initial () initial) schedule) slot id settled := by
  obtain ⟨right, good⟩ := System.guarantees_of_runs relies_owners guarantees_lookup
    (fun _ _ found => Or.inl found) reached fun slot call reply member => ⟨slot, member⟩
  refine ⟨right, fun slot id answer started ended => ?_⟩
  have own := good slot answer ended
  obtain ⟨settled, rfl, unanswered⟩ := path_of_lookup (System.reaches_of_result reached started ended)
  simp only [Event.mem_exchangesOf] at unanswered
  refine ⟨settled, rfl, fun owner same => ?_, fun same => ?_, fun cause same => ?_, unanswered⟩
  · rw [same] at own
    exact own
  · rw [same] at own
    exact own
  · rw [same] at own
    exact own

def naming (owner : String) : AsyncResult :=
  .succeeded ⟨200, .json (.obj [("results", .arr [.obj [("ownerUserId", .str owner)]])])⟩

/-- The second lookup fails on its way while the first is answered, and the third
loses its owner between its two looks at the cache. -/
def lookupsOverlap : List (Label OwnerRequest AsyncResult) :=
  [.start 0 (.getProviderOwnerId "p"), .start 1 (.getProviderOwnerId "p"), .execute 0 (naming "u"), .execute 1 (naming "u"),
   .receive 0, .receive 1, .handle 0, .handle 1, .execute 0 (naming "u"), .execute 1 (.failed "timeout"),
   .receive 0, .handle 0, .receive 1, .handle 1, .execute 0 (naming "u"), .receive 0, .handle 0,
   .start 2 (.getProviderOwnerId "p"), .start 3 (.evict "p"), .execute 2 (naming "u"), .receive 2, .handle 2,
   .execute 3 (naming "u"), .receive 3, .execute 2 (naming "u"), .receive 2, .handle 2]

def ownersTold (final : Lookups) : List (Option (Promise DxException (Option String))) :=
  [0, 1, 2].map fun slot => match final.result slot with
    | some (.owner _ settled) => some settled
    | _ => none

theorem owners_known_overlap :
    ∃ final, service.runs (Pool.initial () fun _ => none) lookupsOverlap = some final ∧
      ownersTold final = [some (.completed (some "u")), some .pending, some (.completed none)] ∧
      RightOwners (fun _ => none) (service.events (Pool.initial () fun _ => none) lookupsOverlap) final.shared ∧
      ∀ slot id answer, .started slot (.getProviderOwnerId id) ∈
          service.events (Pool.initial () fun _ => none) lookupsOverlap →
        final.result slot = some answer → ∃ settled, answer = .owner id settled ∧
          OwnerTold (fun _ => none) (service.events (Pool.initial () fun _ => none) lookupsOverlap) slot id settled := by
  have told : (service.runs (Pool.initial () fun _ => none) lookupsOverlap).map ownersTold =
      some [some (.completed (some "u")), some .pending, some (.completed none)] := by rfl
  obtain ⟨final, reached, told⟩ := Option.map_eq_some_iff.mp told
  exact ⟨final, reached, told, owners_known (fun _ => none) lookupsOverlap final reached⟩

end Tgdex.Properties
