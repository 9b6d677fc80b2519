import Tgdex.Effects.Linearization
import Tgdex.Properties.PageWalk
import Tgdex.Properties.Reads

namespace Tgdex.Properties

open Tgdex.Data Tgdex.Java Tgdex.Effects Tgdex.Elastic Tgdex.Query Tgdex.Items Tgdex.Search Tgdex.Api

/-! # Browsing a search

A client that asks for the pages of a search one after the other, while nothing
is written, is shown every document that matches. -/

theorem flatMap_windows {α : Type} (items : List α) (size count : Nat) :
    (List.range count).flatMap (fun page => (items.drop (size * page)).take size) = items.take (size * count) := by
  induction count with
  | zero => simp
  | succ count ih =>
      rw [List.range_succ, List.flatMap_append, ih, List.flatMap_singleton, Nat.mul_succ, List.take_add]

section

variable {unicode : Unicode} {isAssetSearch isCountApi : Bool} {context : RoutingContext}
  {decoded : QueryDecoderRequestDTO} {model : QueryModel} {page : Option String} {size number : Int}

theorem build_page (built : build unicode isAssetSearch isCountApi context = .ok decoded)
    (paged : intParameter 1 page = .ok number) :
    build unicode isAssetSearch isCountApi { context with page } = .ok { decoded with page := some number } := by
  simp only [build, bind_eq_ok, nonNull_eq_ok, pure, Except.pure, Except.ok.injEq] at built ⊢
  obtain ⟨body, given, type, named, length, sized, _, -, filter, listed, text, asked, criteria, narrowed, response,
    answered, sort, sorted, rfl⟩ := built
  exact ⟨body, given, type, named, length, sized, number, paged, filter, listed, text, asked, criteria, narrowed,
    response, answered, sort, sorted, rfl⟩

theorem getQueryModel_page (made : getQueryModel unicode decoded = .ok model)
    (ordinary : isParentObjectInfo unicode decoded = false) (sized : decoded.size = some size) (number : Int) :
    getQueryModel unicode { decoded with page := some number } =
      .ok { model with offset := some (toInt32 (toInt32 (number - 1) * size)) } := by
  have same : getQueryMap unicode { decoded with page := some number } = getQueryMap unicode decoded := rfl
  have ordinary_ : isParentObjectInfo unicode { decoded with page := some number } = false := ordinary
  have valid : isValidQuery { decoded with page := some number } = isValidQuery decoded := rfl
  simp only [getQueryModel, ordinary, Bool.false_eq_true, if_false, sized, bind_eq_ok] at made
  obtain ⟨queryMap, mapped, made⟩ := made
  cases isValid : isValidQuery decoded with
  | false => simp [isValid] at made
  | true =>
      simp only [isValid, Bool.not_true, Bool.false_eq_true, if_false] at made
      cases made
      simp only [getQueryModel, ordinary_, same, mapped, valid, isValid, Bool.false_eq_true, if_false]
      simp only [sized]
      rfl

theorem searchModel_page (made : searchModel unicode decoded = .ok model)
    (ordinary : isParentObjectInfo unicode decoded = false) (sized : decoded.size = some size) (number : Int) :
    searchModel unicode { decoded with page := some number } =
      .ok { model with offset := some (toInt32 (toInt32 (number - 1) * size)) } := by
  simp only [searchModel, bind_eq_ok, pure, Except.pure, Except.ok.injEq] at made
  obtain ⟨plain, decoded_, fields, sorted, rfl⟩ := made
  have sorted_ : sortFields ({ decoded with page := some number } : QueryDecoderRequestDTO).sort = .ok fields := sorted
  simp only [searchModel, getQueryModel_page decoded_ ordinary sized number, sorted_]
  rfl

end

/-- The call is ranked this way, if it is answered at all. -/
def RankedBy (ranking : Ranking) : Choice → Prop
  | .fails _ => True
  | .answers other _ _ => other.order = ranking.order

/-- What a search asks for comes back in its place among what its query finds. -/
theorem hits_of_search {engine : Engine} {sent : SearchRequest} {choice : Choice} {index : Index}
    {found : SearchAnswer} {ranking : Ranking} (whole : sent.includes = none) (ranked : RankedBy ranking choice)
    (replied : (engine.execute (.search sent .sourceOnly) choice index).1 = .ok found) :
    found.hits =
      ((ranking.order (engine.hits sent.query index)).drop (sent.from_.getD 0).toNat).take sent.size.toNat := by
  cases choice with
  | fails reason => cases replied
  | answers other aggregate generatedId =>
      obtain rfl := Except.ok.inj replied
      have same : other.order = ranking.order := ranked
      simp only [Engine.answer, SearchRequest.page, whole, List.map_id', same]

section

variable {api : ApiServer} {store : Index} {statics : Statics} {final : ApiServer.Requests}
  {schedule : List (Label HttpRequest Choice)} {request : HttpRequest} {size count : Nat} {ranking : Ranking}
  {ids : Nat → Nat} {texts : Nat → String} {served : Nat → Served}

/-- While nothing is written the index stays as it was. -/
theorem store_of_quiet {before after : List (Label HttpRequest Choice)} {moment : ApiServer.Requests}
    (quiet : commits (api.live.events (Pool.initial store statics) (before ++ after)) = [])
    (reached : api.live.runs (Pool.initial store statics) before = some moment) : moment.store = store := by
  rw [System.events_append reached, commits_append, List.append_eq_nil_iff] at quiet
  rw [foldl_of_runs reached, quiet.1]
  rfl

/-- The first pages of a search, each asked for by a request of its own, are
all answered with success and ranked alike. -/
structure Browses (api : ApiServer) (store : Index) (statics : Statics) (schedule : List (Label HttpRequest Choice))
    (final : ApiServer.Requests) (request : HttpRequest) (size count : Nat) (ranking : Ranking) (ids : Nat → Nat)
    (texts : Nat → String) (served : Nat → Served) : Prop where
  operation : request.operation = .search ∨ request.operation = .myAssetsSearch
  size : intParameter 100 request.size = .ok size
  pages : ∀ page < count, parseInt (texts page) = .ok (page + 1)
  started : ∀ page < count, .started (ids page) { request with page := some (texts page) } ∈
    api.live.events (Pool.initial store statics) schedule
  ended : ∀ page < count, final.result (ids page) = some (served page)
  success : ∀ page < count, (served page).response.status = 200
  ranked : ∀ page < count, ∀ choice, .execute (ids page) choice ∈ schedule → RankedBy ranking choice

theorem offset_of_page (bounded : size * count < 0x80000000) {page : Nat} (within : page < count) :
    (toInt32 (toInt32 ((page : Int) + 1 - 1) * size)).toNat = size * page := by
  cases size with
  | zero => simp [toInt32]
  | succ size =>
      have last : (size + 1) * page ≤ (size + 1) * count := Nat.mul_le_mul_left _ (Nat.le_of_lt within)
      have pages : count ≤ (size + 1) * count := Nat.le_mul_of_pos_left _ (by omega)
      have product : (page : Int) * ((size + 1 : Nat) : Int) = (((size + 1) * page : Nat) : Int) := by
        rw [Nat.mul_comm, Int.natCast_mul]
      rw [Int.add_sub_cancel, @toInt32_of_bounds page (by omega) (by omega), product,
        toInt32_of_bounds (by omega) (by omega), Int.toNat_natCast]

/-- A page of an undisturbed run lists its window of what the search finds. -/
theorem window_of_page (reached : api.live.runs (Pool.initial store statics) schedule = some final)
    (quiet : commits (api.live.events (Pool.initial store statics) schedule) = [])
    (browses : Browses api store statics schedule final request size count ranking ids texts served)
    (bounded : size * count < 0x80000000) {caller : Caller} {decoded : QueryDecoderRequestDTO} {model : QueryModel}
    {query : Option Elastic.Query}
    (passed : authenticated api.jwtAuth request.operation.security request.authorization = .ok caller)
    (built : build api.server.config.unicode (request.operation == .myAssetsSearch) false
      { request.context api.jwtAuth caller with page := some (texts 0) } = .ok decoded)
    (made : searchModel api.server.config.unicode decoded = .ok model) (queried : searchQuery model = .ok query)
    {page : Nat} (within : page < count) :
    listing (served page) =
      (((ranking.order (api.server.engine.hits query store)).drop (size * page)).take size).map
        fun hit => shown hit.source := by
  obtain ⟨caller_, decoded_, model_, sent, before, choice, after, moment, found, passed_, built_, made_, asked, split,
    reachedBefore, replied, results⟩ := search_of_success reached (browses.started page within) browses.operation
      (browses.ended page within) (browses.success page within)
  obtain rfl := Except.ok.inj (passed.symm.trans passed_)
  -- The page is decoded like the first one, up to its number.
  have number : intParameter 1 (some (texts page)) = .ok ((page : Int) + 1) := browses.pages page within
  obtain rfl := Except.ok.inj ((build_page built number).symm.trans built_)
  have sized : decoded.size = some (size : Int) := by
    obtain ⟨body, length, _, _, -, sized, -, -, given, -, -⟩ := parameters_of_build built
    rw [given, Except.ok.inj (sized.symm.trans browses.size)]
  have ordinary := ordinary_of_build built
  obtain rfl := Except.ok.inj ((searchModel_page made ordinary sized _).symm.trans made_)
  have whole := includes_of_build built_ made_ asked
  obtain ⟨plain, plainly, fields, rfl⟩ := getQueryModel_of_searchModel made
  obtain ⟨queried_, limited, from_⟩ := sent_of_searchRequest asked
  obtain rfl : query = sent.query := Except.ok.inj (queried.symm.trans queried_)
  have limit : sent.size = size := by
    rw [limited]
    change plain.limit.getD defaultSize = (size : Int)
    rw [limit_of_getQueryModel sized ordinary plainly, Option.getD_some]
  have unchanged : moment.store = store := store_of_quiet (split ▸ quiet) reachedBefore
  have placed := hits_of_search whole (browses.ranked page within choice (by simp [split])) replied
  rw [unchanged, from_, Option.getD_some, offset_of_page bounded within, limit, Int.toNat_natCast] at placed
  rw [results, placed]

end

/-- A client that asks for the pages of a search while nothing is written is
shown every document that the search finds, each once, up to the last page. -/
theorem pages_show_every_match (api : ApiServer) (store : Index) (statics : Statics) (final : ApiServer.Requests)
    (schedule : List (Label HttpRequest Choice))
    (reached : api.live.runs (Pool.initial store statics) schedule = some final)
    (quiet : commits (api.live.events (Pool.initial store statics) schedule) = []) (request : HttpRequest)
    (size count : Nat) (ranking : Ranking) (ids : Nat → Nat) (texts : Nat → String) (served : Nat → Served)
    (browses : Browses api store statics schedule final request size count ranking ids texts served)
    (some_ : 0 < count) (bounded : size * count < 0x80000000) :
    ∃ subject decoded model, ∃ hits : List Hit, ServedFor api request subject ∧
      build api.server.config.unicode (request.operation == .myAssetsSearch) false
        ⟨request.body, request.size, some (texts 0), request.sort, subject⟩ = .ok decoded ∧
      searchModel api.server.config.unicode decoded = .ok model ∧ (hits.map Hit.id).Nodup ∧
      (∀ hit, hit ∈ hits ↔ store.lookup hit.id = some hit.source ∧ Finds api.server.engine model hit.source) ∧
      (List.range count).flatMap (fun page => listing (served page)) =
        (hits.take (size * count)).map fun hit => shown hit.source := by
  obtain ⟨caller, decoded, model, sent, -, -, -, -, -, passed, built, made, asked, -, -, -, -⟩ :=
    search_of_success reached (browses.started 0 some_) browses.operation (browses.ended 0 some_)
      (browses.success 0 some_)
  obtain ⟨queried, -, -⟩ := sent_of_searchRequest asked
  have perm := ranking.perm (api.server.engine.hits sent.query store)
  refine ⟨_, decoded, model, ranking.order (api.server.engine.hits sent.query store),
    servedFor_of_authenticated passed, built, made, ?once, ?members, ?listed⟩
  case once => exact (perm.map Hit.id).nodup_iff.mpr (nodup_hits api.server.engine sent.query store)
  case members =>
    intro hit
    rw [perm.mem_iff, Engine.mem_hits, Finds]
    refine and_congr_right fun _ => ⟨?_, ?_⟩
    · intro matched
      exact ⟨sent.query, queried, by cases given : sent.query <;> simp [matched, given]⟩
    · rintro ⟨query, queried_, matched⟩ asked_ given
      obtain rfl := Except.ok.inj (queried.symm.trans queried_)
      rw [given, Option.all_some] at matched
      exact matched
  case listed =>
    rw [← flatMap_windows, List.map_flatMap]
    exact List.flatMap_congr fun page member =>
      window_of_page reached quiet browses bounded passed built made queried (List.mem_range.mp member)

def twoApps : Index :=
  AList.insert appId (appBody "first") (AList.insert "3d4e5f60-bbbb-4ccc-8ddd-1234567890ab" otherApp ∅)

def pageText : Nat → String
  | 0 => "1"
  | _ => "2"

def singles : HttpRequest := { searchFrom "first" with size := some "1" }

def pagesApart : List (Label HttpRequest Choice) :=
  .start 0 { singles with page := some (pageText 0) } :: .start 1 { singles with page := some (pageText 1) } ::
    turnOf 1 ++ turnOf 0

/-- Each page shows one of the two apps. -/
example : ((asciiApi.live.runs (Pool.initial twoApps {}) pagesApart).map fun final =>
    [0, 1].map fun page => (final.result page).map fun served => (listing served).length) =
      some [some 1, some 1] := by
  decide +kernel

theorem pages_show_every_match_apart :
    ∃ served : Nat → Served, ∃ hits : List Hit, (∀ hit ∈ hits, twoApps.lookup hit.id = some hit.source) ∧
      (List.range 2).flatMap (fun page => listing (served page)) =
        (hits.take (1 * 2)).map fun hit => shown hit.source := by
  have answered : (asciiApi.live.runs (Pool.initial twoApps {}) pagesApart).any (fun final =>
      [0, 1].all fun page => (final.result page).any fun served => served.response.status == 200) = true := by
    decide +kernel
  have quiet : (commits (asciiApi.live.events (Pool.initial twoApps {}) pagesApart)).isEmpty = true := by
    decide +kernel
  obtain ⟨final, reached, answered⟩ := (Option.any_eq_true _ _).mp answered
  simp only [List.all_cons, List.all_nil, Bool.and_true, Bool.and_eq_true, Option.any_eq_true, beq_iff_eq] at answered
  obtain ⟨⟨first, endedFirst, success⟩, second, endedSecond, successSecond⟩ := answered
  have below : ∀ {P : Nat → Prop}, P 0 → P 1 → ∀ page < 2, P page := by
    intro P zero one page within
    obtain rfl | rfl : page = 0 ∨ page = 1 := by omega
    · exact zero
    · exact one
  have browses : Browses asciiApi twoApps {} pagesApart final singles 1 2 .asStored id pageText
      fun page => if page = 0 then first else second := {
    operation := .inl rfl
    size := by decide +kernel
    pages := below (by decide +kernel) (by decide +kernel)
    started := below (System.started_mem_events reached List.mem_cons_self)
      (System.started_mem_events reached (List.mem_cons_of_mem _ List.mem_cons_self))
    ended := below endedFirst endedSecond
    success := below success successSecond
    ranked := by
      intro page _ choice executed
      simp only [pagesApart, turnOf, List.cons_append, List.nil_append, List.mem_cons, Label.execute.injEq, reduceCtorEq,
        List.not_mem_nil, or_false, false_or] at executed
      rcases executed with ⟨-, rfl⟩ | ⟨-, rfl⟩ <;> rfl }
  obtain ⟨subject, decoded, model, hits, -, -, -, -, members, listed⟩ :=
    pages_show_every_match asciiApi twoApps {} final pagesApart reached (List.isEmpty_iff.mp quiet) singles 1 2 .asStored
      id pageText _ browses (by decide) (by decide)
  exact ⟨_, hits, fun hit member => ((members hit).mp member).1, listed⟩

end Tgdex.Properties
