import Tgdex.StoredItems

namespace Tgdex.Properties

open Tgdex.Data Tgdex.Java Tgdex.Effects Tgdex.Elastic Tgdex.Query Tgdex.Items Tgdex.Search

/-! # The static fields under overlapping requests -/

variable {server : Server} {store : Index} {statics : Statics} {final : Server.Requests}
  {schedule : List (Label Request Choice)}

def CountsHits : Call → Prop
  | .search _ options => options = .sourceOnly
  | _ => True

theorem readsOwn_source (decoded : QueryDecoderRequestDTO) (request : SearchRequest) :
    ReadsOwn countWritten Statics.totalHits (.search request .sourceOnly) fun reply statics =>
      (.done (searchOutcome decoded (Future.delivered (searchResult .sourceOnly reply statics))) : Handler) := by
  intro reply statics other own
  cases reply with
  | error reason => rfl
  | ok answer =>
      have both := own answer.total rfl
      have result : ∀ statics, Future.delivered (searchResult .sourceOnly (.ok answer) statics) =
          .success (answer.hits.map (resultOf .sourceOnly), statics) := fun _ => rfl
      simp only [result, searchOutcome, both.1, both.2]

theorem countsHits_handler (config : Config) (request : Request) :
    (request.handler config).Always fun call resume =>
      CountsHits call → ReadsOwn countWritten Statics.totalHits call resume := by
  refine always_handler config ?_ ?_ ?_ request
  · intro call resume disciplined _
    exact disciplined.reads
  · intro decoded request _
    exact readsOwn_source decoded request
  · intro options request aggregates counts
    exact absurd counts aggregates

/-- A reply about to be processed reports the same count as the replies whose
handlers still wait. -/
def KeepsCounts (pool : Server.Requests) : Label Request Choice → Prop
  | .receive id => ∀ call reply resume count, pool.phase id = some (.executed call reply resume) →
      countWritten call reply = some count →
      ∀ other otherCall otherReply otherResume kept, other ≠ id →
        pool.phase other = some (.waiting otherCall otherReply otherResume) →
        countWritten otherCall otherReply = some kept → kept = count
  | _ => True

theorem undisturbed_of_keepsCounts {pool : Server.Requests} {label : Label Request Choice}
    (keeps : KeepsCounts pool label) :
    pool.Undisturbed server.live.toBackend countWritten Statics.totalHits label := by
  cases label with
  | start id request => trivial
  | execute id choice => trivial
  | handle id => trivial
  | receive id =>
      intro call reply resume executed
      exact ⟨rfl, fun count wrote => keeps call reply resume count executed wrote⟩

/-- While replies keep the counts that others wait for, every handler that
decides on a hit count decides on the count of its own lookup. -/
theorem decides_on_own_count (server : Server) (store : Index) (statics : Statics)
    (schedule : List (Label Request Choice)) (final : Server.Requests)
    (guarded : server.live.Guarded KeepsCounts (Pool.initial store statics) schedule)
    (reached : server.live.runs (Pool.initial store statics) schedule = some final)
    (id : Nat) (call : Call) (reply : Reply call) (resume : Reply call → Statics → Handler)
    (waiting : final.phase id = some (.waiting call reply resume)) (counts : CountsHits call)
    (own : Statics) (agrees : ∀ count, countWritten call reply = some count → own.totalHits = count) :
    resume reply final.shared = resume reply own := by
  have current : final.Current countWritten Statics.totalHits :=
    runs_current server.live (fun _ _ keeps => undisturbed_of_keepsCounts keeps)
      (Pool.initial_current store statics) guarded reached
  have all := System.runs_always (countsHits_handler server.config) (Pool.initial_always store statics) reached
  have reads := (all id _ waiting).1 counts
  exact reads reply _ _ fun count wrote => ⟨current id call reply resume count waiting wrote, agrees count wrote⟩

/-- A run of item requests in which no reply overwrites a count that another
handler waits for is a run in which every handler sees its own count. -/
theorem live_items_eq_isolated (server : Server) (store : Index) (statics : Statics)
    (schedule : List (Label ItemRequest Choice))
    (guarded : (System.live server.engine.backend (ItemRequest.handler server.config)).Guarded
      (Pool.Undisturbed server.engine.backend countWritten Statics.totalHits) (Pool.initial store statics) schedule) :
    (System.live server.engine.backend (ItemRequest.handler server.config)).runs (Pool.initial store statics) schedule =
      server.items.runs (Pool.initial store statics) schedule :=
  live_runs_eq_isolated (fun _ _ _ => rfl)
    (fun request => (disciplined_handler server.config request).imp fun _ _ disciplined => disciplined.reads)
    (Pool.initial_current store statics) (Pool.initial_always store statics) guarded

def plainWire : Wire := ⟨JsonObject.dropNulls, JsonObject.get?_dropNulls, .nowhere⟩

def asciiServer : Server := ⟨asciiEngine, asciiUnicode, plainWire, .nowhere, "voc"⟩

def openApp : JsonObject :=
  ⟨[("id", .str "2c3d4e5f-aaaa-4bbb-8ccc-0123456789ab"), ("type", .arr [.str "adex:Apps"]),
    ("accessPolicy", .str "OPEN")]⟩

def oneApp : Index := (∅ : Index).insert "2c3d4e5f-aaaa-4bbb-8ccc-0123456789ab" openApp

def getApp : Request := .item (.get {} (some "2c3d4e5f-aaaa-4bbb-8ccc-0123456789ab"))

def getMissing : Request := .item (.get {} (some "00000000-aaaa-4bbb-8ccc-0123456789ab"))

def statuses (schedule : List (Label Request Choice)) (id : Nat) : Option (List Nat) := do
  let final ← asciiServer.live.runs (Pool.initial oneApp {}) schedule
  let outcomes ← final.result id
  return outcomes.map Outcome.status

def readAlone : List (Label Request Choice) := [.start 0 getApp, .execute 0 .plain, .receive 0]

/-- The reply to a second read of the same item comes in while the first still waits. -/
def readTogether : List (Label Request Choice) :=
  readAlone ++ [.start 1 getApp, .execute 1 .plain, .receive 1]

theorem decides_on_own_count_together :
    ∃ final call reply resume otherCall otherReply otherResume,
      asciiServer.live.runs (Pool.initial oneApp {}) readTogether = some final ∧
      final.phase 0 = some (.waiting call reply resume) ∧
      final.phase 1 = some (.waiting otherCall otherReply otherResume) ∧
      resume reply final.shared = resume reply ⟨1, none⟩ := by
  refine ⟨_, _, _, _, _, _, _, rfl, rfl, rfl,
    decides_on_own_count asciiServer oneApp {} readTogether _ ?_ rfl 0 _ _ _ rfl trivial _ ?_⟩
  · refine ⟨trivial, fun first started => ⟨trivial, fun second executed => ⟨?_, fun third received => ?_⟩⟩⟩
    · cases started
      cases executed
      intro call reply resume count _ _ other otherCall otherReply otherResume kept differs waiting
      simp [Pool.setPhase, Pool.initial, differs] at waiting
    · cases started
      cases executed
      cases received
      refine ⟨trivial, fun fourth began => ⟨trivial, fun fifth called => ⟨?_, fun sixth _ => trivial⟩⟩⟩
      cases began
      cases called
      intro call reply resume count phase wrote other otherCall otherReply otherResume kept differs waiting keptWrote
      by_cases zero : other = 0
      · subst zero
        cases phase
        cases waiting
        have one : some 1 = some count := Eq.trans (Eq.symm (by decide +kernel)) wrote
        have same : some 1 = some kept := Eq.trans (Eq.symm (by decide +kernel)) keptWrote
        exact Option.some.inj (same.symm.trans one)
      · simp [Pool.setPhase, Pool.initial, differs, zero] at waiting
  · intro count wrote
    refine Option.some.inj (Eq.trans (Eq.symm ?_) wrote)
    decide +kernel

/-- The handler of the first request runs between the steps of the second. -/
def readsOverlap : List (Label Request Choice) :=
  readAlone ++ [.start 1 getMissing, .execute 1 .plain, .receive 1, .handle 0]

/-- An item that is there is answered with 404 when the reply to another
request comes in before its handler runs. -/
theorem overlapping_read_not_found :
    statuses (readAlone ++ [.handle 0]) 0 = some [200] ∧ statuses readsOverlap 0 = some [404] := by
  decide +kernel

/-- The aggregation that a reply is parsed to, also when it is empty. -/
def parsedOf : (call : Call) → Reply call → Option JsonObject
  | .search _ options, .ok answer =>
      if options.parsesAggregations then (parseAggregations answer.aggregations options).toOption else none
  | _, _ => none

/-- What a request answers with when it reports its own aggregation. -/
def ownAggregations (options : Options) : Except String SearchAnswer → List Outcome
  | .error reason => [.failed 500 (.serviceException reason)]
  | .ok answer =>
      match parseAggregations answer.aggregations options with
      | .ok parsed => [.ended 200 ⟨[("type", .str "urn:dx:cat:Success"), ("title", .str "Success"),
          ("results", .arr [.obj parsed.fields])]⟩]
      | .error _ => [.failed 500 (.serviceException "Failed to parse search result")]

theorem aggregationsWritten_eq (call : Call) (reply : Reply call) :
    aggregationsWritten call reply = (parsedOf call reply).filter fun parsed => !parsed.fields.isEmpty := by
  cases call with
  | search request options =>
      cases reply with
      | error reason => rfl
      | ok answer =>
          simp only [aggregationsWritten, parsedOf]
          split
          · cases parseAggregations answer.aggregations options with
            | error cause => rfl
            | ok parsed => cases empty : parsed.fields.isEmpty <;> simp [Except.toOption, Option.filter, empty]
          · rfl
  | singleSearch query => rfl
  | bulkIndex id document => rfl
  | exists_ id => rfl
  | update id partialDocument => rfl
  | delete id => rfl

/-- Handlers of aggregation searches answer from the static field, and nothing
else does. -/
def AnswersAggregations : (call : Call) → (Reply call → Statics → Handler) → Prop
  | .search _ options, resume => options ≠ .sourceOnly → ∀ reply statics,
      resume reply statics = .done (aggregationsOutcome (Future.delivered (searchResult options reply statics)))
  | _, _ => True

theorem answersAggregations_handler (config : Config) (request : Request) :
    (request.handler config).Always AnswersAggregations := by
  refine always_handler config ?_ ?_ ?_ request
  · intro call resume disciplined
    cases call with
    | search request options => exact absurd trivial disciplined.notSearch
    | _ => trivial
  · intro decoded request other
    exact absurd rfl other
  · intro options request _ _ reply statics
    rfl

/-- The aggregation is not empty, and encoding it leaves nothing out. -/
def Whole (parsed : JsonObject) : Prop := parsed.fields ≠ [] ∧ parsed.encoded .nowhere = parsed

/-- A reply about to be processed has a whole aggregation, and the same one as
the replies whose handlers still wait. -/
def KeepsAggregations (pool : Server.Requests) : Label Request Choice → Prop
  | .receive id => ∀ call reply resume parsed, pool.phase id = some (.executed call reply resume) →
      parsedOf call reply = some parsed → Whole parsed ∧
        ∀ other otherCall otherReply otherResume kept, other ≠ id →
          pool.phase other = some (.waiting otherCall otherReply otherResume) →
          parsedOf otherCall otherReply = some kept → kept = parsed
  | _ => True

theorem undisturbed_of_keepsAggregations {pool : Server.Requests} {label : Label Request Choice}
    (keeps : KeepsAggregations pool label) :
    pool.Undisturbed server.live.toBackend (fun call reply => (parsedOf call reply).map some) Statics.aggregations
      label := by
  cases label with
  | start id request => trivial
  | execute id choice => trivial
  | handle id => trivial
  | receive id =>
      intro call reply resume executed
      have kept := keeps call reply resume
      refine ⟨?_, ?_⟩
      · change (aggregationsWritten call reply).or pool.shared.aggregations =
          ((parsedOf call reply).map some).getD pool.shared.aggregations
        rw [aggregationsWritten_eq]
        cases parse : parsedOf call reply with
        | none => rfl
        | some parsed => simp [Option.filter, (kept parsed executed parse).1.1]
      · rintro value wrote other otherCall otherReply otherResume otherValue differs waiting otherWrote
        obtain ⟨parsed, parse, rfl⟩ := Option.map_eq_some_iff.mp wrote
        obtain ⟨otherParsed, otherParse, rfl⟩ := Option.map_eq_some_iff.mp otherWrote
        exact congrArg some ((kept parsed executed parse).2 other otherCall otherReply otherResume otherParsed differs
          waiting otherParse)

theorem parsesAggregations_of_ne {options : Options} (aggregates : options ≠ .sourceOnly) :
    options.parsesAggregations = true := by
  cases options with
  | sourceOnly => exact absurd rfl aggregates
  | aggregationList => decide
  | countAggregationOnly => decide

/-- While replies have aggregations and keep those that others wait for, every
request answers with the aggregation of the reply to its own query. -/
theorem answers_own_aggregations (server : Server) (store : Index) (statics : Statics)
    (schedule : List (Label Request Choice)) (final : Server.Requests)
    (guarded : server.live.Guarded KeepsAggregations (Pool.initial store statics) schedule)
    (reached : server.live.runs (Pool.initial store statics) schedule = some final)
    (id : Nat) (request : SearchRequest) (options : Options) (reply : Reply (.search request options))
    (resume : Reply (.search request options) → Statics → Handler)
    (waiting : final.phase id = some (.waiting (.search request options) reply resume))
    (aggregates : options ≠ .sourceOnly) :
    resume reply final.shared = .done (ownAggregations options reply) := by
  have current : final.Current (fun call reply => (parsedOf call reply).map some) Statics.aggregations :=
    runs_current server.live (fun _ _ keeps => undisturbed_of_keepsAggregations keeps)
      (Pool.initial_current store statics) guarded reached
  have all := System.runs_always (answersAggregations_handler server.config) (Pool.initial_always store statics) reached
  have answers : AnswersAggregations (.search request options) resume := (all id _ waiting).1
  have whole : final.AllWaiting fun call reply => ∀ parsed, parsedOf call reply = some parsed → Whole parsed :=
    runs_allWaiting server.live (fun pool label keeps id call reply resume received executed parsed parse => by
      subst received
      exact (keeps call reply resume parsed executed parse).1) guarded reached
  have parses := parsesAggregations_of_ne aggregates
  rw [answers aggregates reply final.shared]
  cases reply with
  | error reason => rfl
  | ok answer =>
      cases parse : parseAggregations answer.aggregations options with
      | error cause => simp [searchResult, ownAggregations, parses, parse, Future.delivered, aggregationsOutcome,
          Throwable.getMessage]
      | ok parsed =>
          have wrote : parsedOf (.search request options) (.ok answer) = some parsed := by
            simp [parsedOf, parses, parse, Except.toOption]
          have held : final.shared.aggregations = some parsed :=
            current id _ _ resume (some parsed) waiting (congrArg (Option.map some) wrote)
          have shown : (Json.obj parsed.fields).encoded .nowhere = .obj parsed.fields :=
            congrArg (fun object : JsonObject => Json.obj object.fields) (whole id _ _ resume waiting parsed wrote).2
          simp [searchResult, ownAggregations, parses, parse, Future.delivered, aggregationsOutcome, held, send_result,
            shown]

def countAll : Request :=
  .count
    { searchType := some "responseFilter_"
      responseFilterRequest := some ⟨some "responseFilter_", some false, some ["id"], none⟩
      accessPolicyRequest := some ⟨none, none⟩ }

def threeModels : JsonObject :=
  ⟨[("results", .obj [("buckets", .arr [.obj [("key", .str "adex:AiModel"), ("doc_count", .num "3")]])])]⟩

def noBuckets : JsonObject := ⟨[("results", .obj [("buckets", .arr [])])]⟩

def countReply (aggregations : JsonObject) : Choice := .answers .asStored (fun _ => some aggregations) ""

def countThree (id : Nat) : List (Label Request Choice) :=
  [.start id countAll, .execute id (countReply threeModels), .receive id]

/-- The reply to a second count comes in while the first still waits. -/
def countTogether : List (Label Request Choice) := countThree 0 ++ countThree 1

theorem parsed_threeModels {call : Call} {reply : Reply call} {parsed : JsonObject}
    (three : parsedOf call reply = some ⟨[("adex:AiModel", .num "3")]⟩) (parse : parsedOf call reply = some parsed) :
    parsed = ⟨[("adex:AiModel", .num "3")]⟩ := Option.some.inj (parse.symm.trans three)

theorem answers_own_aggregations_together :
    ∃ final request reply resume other otherReply otherResume,
      asciiServer.live.runs (Pool.initial ∅ {}) countTogether = some final ∧
      final.phase 0 = some (.waiting (.search request .countAggregationOnly) reply resume) ∧
      final.phase 1 = some (.waiting (.search other .countAggregationOnly) otherReply otherResume) ∧
      resume reply final.shared = .done (ownAggregations .countAggregationOnly reply) := by
  refine ⟨_, _, _, _, _, _, _, rfl, rfl, rfl,
    answers_own_aggregations asciiServer ∅ {} countTogether _ ?_ rfl 0 _ _ _ _ rfl (by decide)⟩
  refine ⟨trivial, fun first started => ⟨trivial, fun second executed => ⟨?_, fun third received => ?_⟩⟩⟩
  · cases started
    cases executed
    intro call reply resume parsed phase parse
    cases phase
    obtain rfl := parsed_threeModels rfl parse
    refine ⟨⟨List.cons_ne_nil _ _, rfl⟩, fun other otherCall otherReply otherResume kept differs waiting => ?_⟩
    simp [Pool.setPhase, Pool.initial, differs] at waiting
  · cases started
    cases executed
    cases received
    refine ⟨trivial, fun fourth began => ⟨trivial, fun fifth called => ⟨?_, fun sixth _ => trivial⟩⟩⟩
    cases began
    cases called
    intro call reply resume parsed phase parse
    cases phase
    obtain rfl := parsed_threeModels rfl parse
    refine ⟨⟨List.cons_ne_nil _ _, rfl⟩, fun other otherCall otherReply otherResume kept differs waiting keptParse => ?_⟩
    by_cases zero : other = 0
    · subst zero
      cases waiting
      exact parsed_threeModels rfl keptParse
    · simp [Pool.setPhase, Pool.initial, differs, zero] at waiting

def bodies (schedule : List (Label Request Choice)) (id : Nat) : Option (List String) := do
  let final ← asciiServer.live.runs (Pool.initial ∅ {}) schedule
  let outcomes ← final.result id
  return outcomes.map fun
    | .ended _ body => javaText (.obj body.fields)
    | .failed _ cause => cause.getMessage

def countsInTurn : List (Label Request Choice) :=
  countThree 0 ++ [.handle 0, .start 1 countAll, .execute 1 (countReply noBuckets), .receive 1, .handle 1]

/-- The second count, whose reply has no buckets, is answered with the result
of the first. -/
theorem empty_count_answers_previous :
    parseAggregations (some noBuckets) .countAggregationOnly = .ok .empty ∧
      bodies countsInTurn 1 =
        some ["\x7btype=urn:dx:cat:Success, title=Success, results=[\x7badex:AiModel=3\x7d]\x7d"] := by
  refine ⟨rfl, by decide +kernel⟩

end Tgdex.Properties
