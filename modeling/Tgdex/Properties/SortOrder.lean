import Tgdex.Search.Controller

namespace Tgdex.Properties

open Tgdex.Data Tgdex.Java Tgdex.Elastic Tgdex.Query Tgdex.Items Tgdex.Search

/-! # The order a search is sorted in -/

inductive SortOrder where
  | asc
  | desc
deriving Repr, DecidableEq

/-- `toSortOptions`, of the entries of the map of sort fields.  The service proxy
carries them in their order. -/
def toSortOptions (unicode : Unicode) (sortFields : List (String × String)) : List (String × SortOrder) :=
  sortFields.map fun entry => (entry.1, if equalsIgnoreCase unicode "asc" entry.2 then .asc else .desc)

/-- What a parsed sort item asks for. -/
def asked (order : OrderBy) : String × SortOrder :=
  (order.column, if order.direction = "ASC" then .asc else .desc)

/-- The list without the items whose column came before. -/
def firstOfEach : List OrderBy → List OrderBy
  | [] => []
  | order :: rest => order :: (firstOfEach rest).filter fun later => later.column != order.column

/-- The options that the sort parameter lists, the first of them first. -/
def listedOptions (orders : List OrderBy) : List (String × SortOrder) := (firstOfEach orders).map asked

def columns (orders : List OrderBy) : List String := orders.map OrderBy.column

variable {unicode : Unicode} {context : RoutingContext} {isAssetSearch : Bool} {orders : List OrderBy}
  {request : QueryDecoderRequestDTO} {unsorted : SearchRequest} {parameter : String}

theorem direction_of_sortOrder {item : String} {order : OrderBy} (read : sortOrder unicode item = .ok order) :
    order.direction = "ASC" ∨ order.direction = "DESC" := by
  simp only [sortOrder] at read
  split at read
  · split at read
    · rw [← Except.ok.inj read]
      exact .inl rfl
    · split at read
      · rw [← Except.ok.inj read]
        exact .inr rfl
      · contradiction
  · contradiction

theorem direction_of_listed (accepted : extractSortOrders unicode (some parameter) = .ok (some orders)) :
    ∀ order ∈ orders, order.direction = "ASC" ∨ order.direction = "DESC" := by
  simp only [extractSortOrders] at accepted
  split at accepted
  · rw [← Option.some.inj (Except.ok.inj accepted)]
    simp
  · split at accepted
    · contradiction
    · simp only [bind_eq_ok, pure, Except.pure, Except.ok.injEq, Option.some.injEq] at accepted
      obtain ⟨listed, mapped, rfl⟩ := accepted
      have directed : ∀ item ∈ split ';' parameter, ∀ order, sortOrder unicode item = .ok order →
          order.direction = "ASC" ∨ order.direction = "DESC" := fun _ _ _ made => direction_of_sortOrder made
      exact forall_of_forall₂ directed (mapM_eq_ok_iff.mp mapped)

/-- A direction is read back as it was written. -/
theorem toSortOptions_of_directions (directed : ∀ order ∈ orders, order.direction = "ASC" ∨ order.direction = "DESC") :
    toSortOptions unicode (orders.map fun order => (order.column, order.direction)) = orders.map asked := by
  rw [toSortOptions, List.map_map]
  refine List.map_congr_left fun order member => ?_
  rcases directed order member with ascending | descending
  · have same : equalsIgnoreCase unicode "asc" "ASC" = true :=
      equalsIgnoreCase_ascii unicode (by decide) (by decide) (by decide)
    simp [asked, ascending, same]
  · have other : equalsIgnoreCase unicode "asc" "DESC" = false := by
      rw [Bool.eq_false_iff]
      intro same
      have lengths := length_of_equalsIgnoreCase same
      revert lengths
      decide
    simp [asked, descending, other]

theorem firstOfEach_of_nodup (distinct : (columns orders).Nodup) : firstOfEach orders = orders := by
  induction orders with
  | nil => rfl
  | cons order rest ih =>
      obtain ⟨fresh, tail⟩ := List.nodup_cons.mp distinct
      rw [firstOfEach, ih tail, List.filter_eq_self.mpr]
      intro later member
      rw [bne_iff_ne]
      intro same
      exact fresh (same ▸ List.mem_map_of_mem member)

theorem sortFields_eq_ok_iff {fields : List (String × String)} : sortFields (some orders) = .ok fields ↔
    (columns orders).Nodup ∧ fields = entrySet (orders.map fun order => (order.column, order.direction)) := by
  have names : (orders.map fun order => (order.column, order.direction)).map Prod.fst = columns orders := by
    rw [List.map_map]
    rfl
  simp only [sortFields, Option.getD_some, names]
  split
  · rename_i distinct
    simp [distinct, eq_comm]
  · rename_i repeated
    simp [repeated]

theorem sends_iff {sent : SearchRequest} : Sends .sourceOnly (handleSearch unicode request) sent ↔
    ∃ model fields, getQueryModel unicode request = .ok model ∧ sortFields request.sort = .ok fields ∧
      searchRequest { model with sortFields := fields } .sourceOnly = .ok sent := by
  rw [sends_handleSearch_iff]
  simp only [searchModel, bind_eq_ok, pure, Except.pure, Except.ok.injEq]
  refine ⟨fun shown => ?_, fun shown => ?_⟩
  · obtain ⟨_, ⟨model, decoded, fields, collected, rfl⟩, made⟩ := shown
    exact ⟨model, fields, decoded, collected, made⟩
  · obtain ⟨model, fields, decoded, collected, made⟩ := shown
    exact ⟨_, ⟨model, decoded, fields, collected, rfl⟩, made⟩

theorem searchRequest_sorted {model : QueryModel} {options : Options} {fields : List (String × String)}
    {plain : SearchRequest} (made : searchRequest model options = .ok plain) :
    searchRequest { model with sortFields := fields } options = .ok { plain with sort := fields } := by
  simp only [searchRequest, bind_eq_ok, pure, Except.pure, Except.ok.injEq] at made ⊢
  obtain ⟨aggregations, named, query, converted, rfl⟩ := made
  exact ⟨aggregations, named, query, converted, rfl⟩

/-- The sort parameter is read last, into a part of its own. -/
theorem build_sorted (accepted : extractSortOrders unicode (some parameter) = .ok (some orders))
    (built : build unicode isAssetSearch false { context with sort := none } = .ok request) :
    build unicode isAssetSearch false { context with sort := some parameter } =
      .ok { request with sort := some orders } := by
  simp only [build, bind_eq_ok, pure, Except.pure, Except.ok.injEq] at built ⊢
  obtain ⟨body, given, type, named, size, sized, page, paged, filter, listed, text, searched, criteria, narrowed,
    response, answered, sort, -, rfl⟩ := built
  exact ⟨body, given, type, named, size, sized, page, paged, filter, listed, text, searched, criteria, narrowed,
    response, answered, some orders, accepted, rfl⟩

/-- What is sent for a request with a sort, beside what is sent without it. -/
theorem sends_sorted_iff {fields : List (String × String)}
    (accepted : extractSortOrders unicode (some parameter) = .ok (some orders))
    (served : Sends .sourceOnly (answerSearch unicode { context with sort := none } isAssetSearch) unsorted) :
    Sends .sourceOnly (answerSearch unicode { context with sort := some parameter } isAssetSearch)
        { unsorted with sort := fields } ↔
      (columns orders).Nodup ∧ fields = entrySet (orders.map fun order => (order.column, order.direction)) := by
  cases built : build unicode isAssetSearch false { context with sort := none } with
  | error cause =>
      simp only [answerSearch, built] at served
      exact absurd served not_sends_done
  | ok request =>
      simp only [answerSearch, built] at served
      obtain ⟨model, none_, decoded, -, asked⟩ := sends_iff.mp served
      have kept : ∀ own, searchRequest { model with sortFields := own } .sourceOnly =
          .ok { unsorted with sort := own } :=
        fun own => @searchRequest_sorted { model with sortFields := none_ } _ own _ asked
      have decoded_ : getQueryModel unicode { request with sort := some orders } = .ok model := decoded
      simp only [answerSearch, build_sorted accepted built]
      rw [← sortFields_eq_ok_iff, sends_iff]
      refine ⟨fun sent => ?_, fun collected => ⟨model, fields, decoded_, collected, kept fields⟩⟩
      obtain ⟨other, own, decodedOther, collected, made⟩ := sent
      obtain rfl := Except.ok.inj (decoded_.symm.trans decodedOther)
      have same := Except.ok.inj ((kept own).symm.trans made)
      obtain rfl : own = fields := congrArg SearchRequest.sort same
      exact collected

/-- A search that is served without its sort is served with it, sorted as the
parameter lists, exactly when no column comes twice and the columns come in the
order of their buckets in a HashMap. -/
theorem sort_kept_iff (accepted : extractSortOrders unicode (some parameter) = .ok (some orders))
    (served : Sends .sourceOnly (answerSearch unicode { context with sort := none } isAssetSearch) unsorted) :
    (∃ fields, Sends .sourceOnly (answerSearch unicode { context with sort := some parameter } isAssetSearch)
        { unsorted with sort := fields } ∧ toSortOptions unicode fields = listedOptions orders) ↔
      (columns orders).Nodup ∧ (columns orders).Pairwise fun first second => bucketOf first ≤ bucketOf second := by
  let puts := orders.map fun order => (order.column, order.direction)
  have names : puts.map Prod.fst = columns orders := by
    rw [List.map_map]
    rfl
  have directions : toSortOptions unicode puts = orders.map asked :=
    toSortOptions_of_directions (direction_of_listed accepted)
  simp only [sends_sorted_iff accepted served]
  refine ⟨fun shown => ?_, fun shown => ?_⟩
  · obtain ⟨_, ⟨distinct, rfl⟩, listed⟩ := shown
    refine ⟨distinct, ?_⟩
    rw [listedOptions, firstOfEach_of_nodup distinct, ← directions] at listed
    have walked : (entrySet puts).map Prod.fst = puts.map Prod.fst := by
      have fields := congrArg (List.map Prod.fst) listed
      simpa [toSortOptions, Function.comp_def] using fields
    have ordered : ((entrySet puts).map Prod.fst).Pairwise fun first second => bucketOf first ≤ bucketOf second :=
      List.pairwise_map.mpr pairwise_walk
    rwa [walked, names] at ordered
  · obtain ⟨distinct, ordered⟩ := shown
    have walked : entrySet puts = puts := entrySet_eq_iff.mpr (names ▸ ordered)
    refine ⟨entrySet puts, ⟨distinct, rfl⟩, ?_⟩
    rw [walked, directions, listedOptions, firstOfEach_of_nodup distinct]

deriving instance DecidableEq for OrderBy

def sortedBy (sort : Option String) : RoutingContext where
  body := some ⟨[("q", .str "sat")]⟩
  sort := sort

theorem documented_sort_kept :
    ∃ (unsorted : SearchRequest) (fields : List (String × String)),
      Sends .sourceOnly (answerSearch asciiUnicode (sortedBy (some "itemCreatedAt:desc;name:asc")) false)
        { unsorted with sort := fields } ∧
      toSortOptions asciiUnicode fields = [("itemCreatedAt", .desc), ("name.keyword", .asc)] := by
  obtain ⟨unsorted, served⟩ : ∃ unsorted,
      Sends .sourceOnly (answerSearch asciiUnicode (sortedBy none) false) unsorted := ⟨_, _, rfl⟩
  have accepted : extractSortOrders asciiUnicode (some "itemCreatedAt:desc;name:asc") =
      .ok (some [⟨"itemCreatedAt", "DESC"⟩, ⟨"name.keyword", "ASC"⟩]) := by decide +kernel
  have kept := @sort_kept_iff asciiUnicode (sortedBy none) false _ _ _ accepted served
  obtain ⟨fields, sent, listed⟩ := kept.mpr ⟨by decide, by decide +kernel⟩
  exact ⟨unsorted, fields, sent, listed⟩

/-- The name is listed first and sent last. -/
theorem sort_by_name_and_type_turned :
    ∃ unsorted : SearchRequest, Sends .sourceOnly (answerSearch asciiUnicode (sortedBy none) false) unsorted ∧
      Sends .sourceOnly (answerSearch asciiUnicode (sortedBy (some "name:asc;type:asc")) false)
        { unsorted with sort := [("type.keyword", "ASC"), ("name.keyword", "ASC")] } ∧
      ¬∃ fields, Sends .sourceOnly (answerSearch asciiUnicode (sortedBy (some "name:asc;type:asc")) false)
        { unsorted with sort := fields } ∧
          toSortOptions asciiUnicode fields = [("name.keyword", .asc), ("type.keyword", .asc)] := by
  obtain ⟨unsorted, served⟩ : ∃ unsorted,
      Sends .sourceOnly (answerSearch asciiUnicode (sortedBy none) false) unsorted := ⟨_, _, rfl⟩
  have accepted : extractSortOrders asciiUnicode (some "name:asc;type:asc") =
      .ok (some [⟨"name.keyword", "ASC"⟩, ⟨"type.keyword", "ASC"⟩]) := by decide +kernel
  have sent : ∀ fields, Sends .sourceOnly (answerSearch asciiUnicode (sortedBy (some "name:asc;type:asc")) false)
      { unsorted with sort := fields } ↔ fields = [("type.keyword", "ASC"), ("name.keyword", "ASC")] := by
    intro fields
    have turned : entrySet [("name.keyword", "ASC"), ("type.keyword", "ASC")] =
        [("type.keyword", "ASC"), ("name.keyword", "ASC")] := by decide +kernel
    have only := @sends_sorted_iff asciiUnicode (sortedBy none) false _ _ _ fields accepted served
    rw [List.map_cons, List.map_singleton, turned] at only
    exact only.trans (and_iff_right (by decide))
  refine ⟨unsorted, served, (sent _).mpr rfl, fun shown => ?_⟩
  obtain ⟨fields, own, listed⟩ := shown
  obtain rfl := (sent fields).mp own
  revert listed
  decide

end Tgdex.Properties
