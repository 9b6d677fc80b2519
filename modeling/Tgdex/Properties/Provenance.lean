import Tgdex.Properties.Commitment
import Tgdex.Properties.ItemTypes

namespace Tgdex.Properties

open Tgdex.Data Tgdex.Java Tgdex.Effects Tgdex.Elastic Tgdex.Query Tgdex.Items Tgdex.Search Tgdex.Api

/-! # Where the documents of the index come from -/

variable {api : ApiServer} {store : Index} {statics : Statics} {final : ApiServer.Requests}
  {schedule : List (Label HttpRequest Choice)}

/-- The token of the request was verified, and the principal holds the role that
the first type of the body asks for. -/
structure Entitled (api : ApiServer) (request : HttpRequest) (principal given : JsonObject) : Prop where
  verified : Verified api.jwtAuth request.authorization principal
  body : request.body = some given
  role : ∃ first rest type, given.get? "type" = some (.arr (first :: rest)) ∧
    fromTypeValue api.server.config.unicode (textOf first) = some type ∧
    HoldsRole api.server.config.unicode (request.caller principal) type

/-- What a request has to bring for a change. -/
def Authorizes (api : ApiServer) (request : HttpRequest) : Commit → Prop
  | .stored id document | .merged id document => ∃ principal given, Entitled api request principal given ∧
      WrittenFor principal given request.moment id document
  | .removed _ => ∃ principal, Verified api.jwtAuth request.authorization principal

theorem entitled_of_mayStore {request : HttpRequest} {id : String} {document : JsonObject}
    (may : request.MayStore api id document) : ∃ principal given, Entitled api request principal given ∧
      WrittenFor principal given request.moment id document := by
  obtain ⟨principal, given, verified, body, role, written⟩ := may
  obtain ⟨_, first, rest, type, same, listed, requested, holds⟩ := verifyItemTypeAndRole_none role
  cases same
  exact ⟨principal, given, ⟨verified, body, first, rest, type, listed, requested, holds⟩, written⟩

theorem authorizes_of_committed {request : HttpRequest} {call : Call} {reply : Reply call} {commit : Commit}
    (permitted : request.Permits api call) (made : committed call reply = some commit) :
    Authorizes api request commit := by
  cases call with
  | singleSearch query => cases made
  | search asked options => cases made
  | exists_ id => cases made
  | bulkIndex id document =>
      cases id with
      | none => exact absurd permitted not_false
      | some id =>
          rcases reply with reason | _ | _ <;> cases made
          exact entitled_of_mayStore permitted.2
  | update id partialDocument =>
      rcases reply with reason | _ <;> cases made
      exact entitled_of_mayStore permitted.2
  | delete id =>
      rcases reply with reason | _ | _ <;> cases made
      exact permitted.2

theorem request_of_commitOf (reached : api.live.runs (Pool.initial store statics) schedule = some final) {id : Nat}
    {commit : Commit} (own : commit ∈ commitsOf id (api.live.events (Pool.initial store statics) schedule)) :
    ∃ request, .started id request ∈ api.live.events (Pool.initial store statics) schedule ∧
      operationOf commit = request.operation ∧ Authorizes api request commit := by
  obtain ⟨call, reply, called, made⟩ := mem_commitsOf.mp own
  obtain ⟨request, started, permitted⟩ := System.started_of_called (permits_route api) reached called
  exact ⟨request, started, operation_of_committed permitted made, authorizes_of_committed permitted made⟩

/-- A document that a run has changed was written or deleted by a request of the
run whose token was verified.  A write has the id of the body or a generated
one, the owner that the token names and a type that the token's roles fit. -/
theorem document_changes_authorized (api : ApiServer) (store : Index) (statics : Statics)
    (final : ApiServer.Requests) (schedule : List (Label HttpRequest Choice))
    (reached : api.live.runs (Pool.initial store statics) schedule = some final) (docId : String)
    (changed : final.store.lookup docId ≠ store.lookup docId) :
    ∃ id request commit, .started id request ∈ api.live.events (Pool.initial store statics) schedule ∧
      commit ∈ commitsOf id (api.live.events (Pool.initial store statics) schedule) ∧ commit.target = docId ∧
      operationOf commit = request.operation ∧ Authorizes api request commit := by
  by_contra none
  refine changed ?_
  rw [foldl_of_runs reached]
  refine lookup_foldl_other (fun commit member same => none ?_) store
  obtain ⟨id, own⟩ := mem_commits.mp member
  obtain ⟨request, started, operation, authorized⟩ := request_of_commitOf reached own
  exact ⟨id, request, commit, started, own, same, operation, authorized⟩

def createdOnce : List (Label HttpRequest Choice) :=
  .start 0 (postFrom "first" (appBody "first")) :: turnOf 0 ++ turnOf 0 ++ turnOf 0

def ownerAfter (schedule : List (Label HttpRequest Choice)) : Option Json := do
  let final ← asciiApi.live.runs (Pool.initial ∅ {}) schedule
  (← final.store.lookup firstAppId).get? "ownerUserId"

theorem run_createdOnce : ∃ final document owner,
    asciiApi.live.runs (Pool.initial ∅ {}) createdOnce = some final ∧
      final.store.lookup firstAppId = some document ∧ document.get? "ownerUserId" = some owner := by
  have ends : (ownerAfter createdOnce).isSome = true := by decide +kernel
  obtain ⟨owner, found⟩ := Option.isSome_iff_exists.mp ends
  obtain ⟨final, reached, found⟩ := Option.bind_eq_some_iff.mp found
  obtain ⟨document, present, owned⟩ := Option.bind_eq_some_iff.mp found
  exact ⟨final, document, owner, reached, present, owned⟩

theorem document_changes_authorized_created :
    ∃ id request commit, .started id request ∈ asciiApi.live.events (Pool.initial ∅ {}) createdOnce ∧
      commit ∈ commitsOf id (asciiApi.live.events (Pool.initial ∅ {}) createdOnce) ∧ commit.target = firstAppId ∧
      operationOf commit = request.operation ∧ Authorizes asciiApi request commit := by
  obtain ⟨final, document, -, reached, present, -⟩ := run_createdOnce
  exact document_changes_authorized asciiApi ∅ {} final createdOnce reached firstAppId (by rw [present]; simp)

/-- The change gives the document this owner. -/
def Gives (docId : String) (owner : Json) : Commit → Prop
  | .stored id document | .merged id document => id = docId ∧ document.get? "ownerUserId" = some owner
  | .removed _ => False

/-- Every owner in the index was there before or was given by one of the changes. -/
def OwnersFrom (store : Index) (changes : List Commit) (index : Index) : Prop :=
  ∀ docId document owner, index.lookup docId = some document → document.get? "ownerUserId" = some owner →
    (∃ old, store.lookup docId = some old ∧ old.get? "ownerUserId" = some owner) ∨
      ∃ commit ∈ changes, Gives docId owner commit

theorem ownersFrom_mono {changes : List Commit} {index : Index} (from_ : OwnersFrom store changes index)
    (more : List Commit) : OwnersFrom store (changes ++ more) index := by
  intro docId document owner present owned
  rcases from_ docId document owner present owned with old | ⟨commit, member, gives⟩
  · exact .inl old
  · exact .inr ⟨commit, List.mem_append_left _ member, gives⟩

theorem ownersFrom_apply {request : HttpRequest} {changes : List Commit} {index : Index} {commit : Commit}
    (from_ : OwnersFrom store changes index) (authorized : Authorizes api request commit) :
    OwnersFrom store (changes ++ [commit]) (commit.apply index) := by
  have last : ∀ docId owner, Gives docId owner commit →
      ∃ commit_ ∈ changes ++ [commit], Gives docId owner commit_ := fun _ _ gives =>
    ⟨commit, List.mem_append_right _ (List.mem_singleton_self _), gives⟩
  have kept := ownersFrom_mono from_ [commit]
  cases commit with
  | stored id stored_ =>
      intro docId document owner present owned
      rw [Commit.apply, lookup_insert] at present
      split at present
      · rename_i same
        cases present
        exact .inr (last docId owner ⟨same.symm, owned⟩)
      · exact kept docId document owner present owned
  | removed id =>
      intro docId document owner present owned
      rw [Commit.apply, lookup_erase] at present
      split at present
      · cases present
      · exact kept docId document owner present owned
  | merged id partialDocument =>
      obtain ⟨principal, given, -, written⟩ := authorized
      simp only [Commit.apply]
      cases found : index.lookup id with
      | none => exact kept
      | some old =>
          intro docId document owner present owned
          simp only at present
          rw [lookup_insert] at present
          split at present
          · rename_i same
            subst same
            cases present
            cases sub : notEmpty (principal.getString "sub") with
            | none =>
                -- without a subject the update leaves the owner as it is
                have absent : partialDocument.get? "ownerUserId" = none := by rw [written.owner, sub]; rfl
                rw [JsonObject.get?_mergeDeep, absent] at owned
                exact kept docId old owner found owned
            | some text =>
                have named : partialDocument.get? "ownerUserId" = some (.str text) := by rw [written.owner, sub]; rfl
                rw [JsonObject.get?_mergeDeep_scalar _ named rfl] at owned
                exact .inr (last docId owner ⟨rfl, named.trans owned⟩)
          · exact kept docId document owner present owned

theorem ownersFrom_of_runs (reached : api.live.runs (Pool.initial store statics) schedule = some final) :
    OwnersFrom store (commits (api.live.events (Pool.initial store statics) schedule)) final.store := by
  have programs : ∀ request, (api.live.program request).AllCalls fun call =>
      ∃ request : HttpRequest, request.Permits api call := fun request =>
    (permits_route api request).imp fun call resume permitted => ⟨request, permitted⟩
  refine System.runs_preserves_store (fun past now => OwnersFrom store (commits past) now) programs
    (fun past now id request from_ => ?_) (fun past now id call choice shown from_ => ?_)
    (fun docId document owner present owned => .inl ⟨document, present, owned⟩) reached
  · rw [commits_append, commits_started, List.append_nil]
    exact from_
  · obtain ⟨request, permitted⟩ := shown
    have acts : (api.live.execute call choice now).2 = applied call (api.live.execute call choice now).1 now :=
      execute_eq_applied (wellFormed_of_permits permitted) choice now
    rw [commits_append, commits_called, acts, applied]
    cases made : committed call (api.live.execute call choice now).1 with
    | none => simpa using from_
    | some commit => exact ownersFrom_apply from_ (authorizes_of_committed permitted made)

/-- The owner of a document is the one that it had before the run, or a create or
an update of the document, made by a request of the run, has given it the
subject of the verified token of that request. -/
theorem owners_are_verified (api : ApiServer) (store : Index) (statics : Statics) (final : ApiServer.Requests)
    (schedule : List (Label HttpRequest Choice))
    (reached : api.live.runs (Pool.initial store statics) schedule = some final) (docId : String)
    (document : JsonObject) (owner : Json) (present : final.store.lookup docId = some document)
    (owned : document.get? "ownerUserId" = some owner) :
    (∃ old, store.lookup docId = some old ∧ old.get? "ownerUserId" = some owner) ∨
      ∃ id request commit principal given subject,
        .started id request ∈ api.live.events (Pool.initial store statics) schedule ∧
        commit ∈ commitsOf id (api.live.events (Pool.initial store statics) schedule) ∧ Gives docId owner commit ∧
        operationOf commit = request.operation ∧ Entitled api request principal given ∧
        (addId given request.moment).getString "id" = some docId ∧
        principal.getString "sub" = some subject ∧ owner = .str subject := by
  rcases ownersFrom_of_runs reached docId document owner present owned with old | ⟨commit, member, gives⟩
  · exact .inl old
  obtain ⟨id, own⟩ := mem_commits.mp member
  obtain ⟨request, started, operation, authorized⟩ := request_of_commitOf reached own
  obtain ⟨principal, given, written, entitled, writes, named⟩ : ∃ principal given written,
      Entitled api request principal given ∧ WrittenFor principal given request.moment docId written ∧
        written.get? "ownerUserId" = some owner := by
    cases commit with
    | stored docId_ written =>
        obtain ⟨rfl, named⟩ := gives
        obtain ⟨principal, given, entitled, writes⟩ := authorized
        exact ⟨principal, given, written, entitled, writes, named⟩
    | merged docId_ written =>
        obtain ⟨rfl, named⟩ := gives
        obtain ⟨principal, given, entitled, writes⟩ := authorized
        exact ⟨principal, given, written, entitled, writes, named⟩
    | removed docId_ => exact absurd gives not_false
  obtain ⟨subject, known, rfl⟩ := Option.map_eq_some_iff.mp (writes.owner.symm.trans named)
  exact .inr ⟨id, request, commit, principal, given, subject, started, own, gives, operation, entitled,
    writes.addressed, (Option.filter_eq_some_iff.mp known).1, rfl⟩

theorem owners_are_verified_created :
    ∃ owner id request commit principal given subject,
      .started id request ∈ asciiApi.live.events (Pool.initial ∅ {}) createdOnce ∧
        commit ∈ commitsOf id (asciiApi.live.events (Pool.initial ∅ {}) createdOnce) ∧
        Gives firstAppId owner commit ∧ operationOf commit = request.operation ∧
        Entitled asciiApi request principal given ∧ (addId given request.moment).getString "id" = some firstAppId ∧
        principal.getString "sub" = some subject ∧ owner = Json.str subject := by
  obtain ⟨final, document, owner, reached, present, owned⟩ := run_createdOnce
  refine ⟨owner, ?_⟩
  rcases owners_are_verified asciiApi ∅ {} final createdOnce reached firstAppId document owner present owned with
    ⟨old, stored, -⟩ | given
  · simp at stored
  · exact given

end Tgdex.Properties
