import Tgdex.Properties.Paging

namespace Tgdex.Properties

open Tgdex.Data Tgdex.Java Tgdex.Elastic Tgdex.Query Tgdex.Search

/-! # Walking the pages of a search -/

/-- The hit stands on this page when pages of this size are laid out from hit 0. -/
def OnPage (size page hit : Int) : Prop := size * (page - 1) ≤ hit ∧ hit < size * (page - 1) + size

section

variable {size page other hit : Int} {totalHits : Nat}

theorem onPage_iff (positive : 0 < size) : OnPage size page hit ↔ page = hit / size + 1 := by
  have place := Int.mul_ediv_add_emod hit size
  have low := Int.emod_nonneg hit (show size ≠ 0 by omega)
  have high := Int.emod_lt_of_pos hit positive
  constructor
  · rintro ⟨from_, below⟩
    have quotient : page - 1 = hit / size := by
      apply Int.le_antisymm
      · exact (Int.le_ediv_iff_mul_le positive).mpr (by rw [Int.mul_comm]; exact from_)
      · apply Int.le_of_lt_add_one
        apply Int.ediv_lt_of_lt_mul positive
        rw [Int.mul_comm, Int.mul_add, Int.mul_one]
        exact below
    omega
  · rintro rfl
    rw [OnPage, Int.add_sub_cancel]
    omega

theorem onPage_unique (positive : 0 < size) (here : OnPage size page hit) (there : OnPage size other hit) :
    page = other :=
  ((onPage_iff positive).mp here).trans ((onPage_iff positive).mp there).symm

/-- A page is one of the computed pages when the hit it starts with exists. -/
theorem le_totalPages_iff (positive : 0 < size) : page ≤ totalPages totalHits size ↔ size * (page - 1) < totalHits := by
  have nonzero : size ≠ 0 := by omega
  rw [totalPages, if_neg nonzero, Int.fdiv_eq_ediv_of_nonneg _ (Int.le_of_lt positive)]
  have flipped : page ≤ -(-(totalHits : Int) / size) ↔ -(totalHits : Int) / size < -(page - 1) := by omega
  rw [flipped, Int.ediv_lt_iff_lt_mul positive, Int.neg_mul, Int.mul_comm]
  omega

theorem page_of_hit (positive : 0 < size) (exists_ : 0 ≤ hit) (counted : hit < totalHits) :
    1 ≤ hit / size + 1 ∧ hit / size + 1 ≤ totalPages totalHits size := by
  have quotient := Int.ediv_nonneg exists_ (Int.le_of_lt positive)
  have start := Int.mul_ediv_self_le (x := hit) (show size ≠ 0 by omega)
  refine ⟨by omega, (le_totalPages_iff positive).mpr ?_⟩
  rw [Int.add_sub_cancel]
  omega

end

def atPage (request : QueryDecoderRequestDTO) (size page : Int) : QueryDecoderRequestDTO :=
  { request with size := some size, page := some page }

/-- The request for this page is decoded to a search whose window holds the hit. -/
def Asked (unicode : Unicode) (request : QueryDecoderRequestDTO) (size page hit : Int) : Prop :=
  ∃ model offset limit, getQueryModel unicode (atPage request size page) = .ok model ∧
    model.offset = some offset ∧ model.limit = some limit ∧ offset ≤ hit ∧ hit < offset + limit

variable {unicode : Unicode} {request : QueryDecoderRequestDTO} {first : QueryModel} {size page : Int}
  {totalHits : Nat}

theorem getQueryModel_atPage (ordinary : isParentObjectInfo unicode request = false)
    (decoded : getQueryModel unicode request = .ok first) (size page : Int) :
    ∃ model, getQueryModel unicode (atPage request size page) = .ok model ∧
      model.offset = some (toInt32 (toInt32 (page - 1) * size)) ∧ model.limit = some size := by
  have same : getQueryMap unicode (atPage request size page) = getQueryMap unicode request := rfl
  have ordinary_ : isParentObjectInfo unicode (atPage request size page) = false := ordinary
  have valid : isValidQuery (atPage request size page) = isValidQuery request := rfl
  simp only [getQueryModel, ordinary, Bool.false_eq_true, if_false, bind_eq_ok] at decoded
  obtain ⟨queryMap, mapped, decoded⟩ := decoded
  cases isValid : isValidQuery request with
  | false => simp [isValid] at decoded
  | true =>
      simp only [getQueryModel, ordinary_, same, mapped, valid, isValid, Bool.false_eq_true, if_false]
      exact ⟨_, rfl, rfl, rfl⟩

/-- Up to the last page nothing wraps. -/
theorem offset_exact (positive : 0 < size) (bounded : size * totalPages totalHits size < 0x80000000)
    (low : 1 ≤ page) (high : page ≤ totalPages totalHits size) :
    toInt32 (toInt32 (page - 1) * size) = size * (page - 1) := by
  have product : size * page ≤ size * totalPages totalHits size := Int.mul_le_mul_of_nonneg_left high (by omega)
  have pages : page ≤ size * page := by
    have := Int.mul_le_mul_of_nonneg_right (show 1 ≤ size by omega) (show 0 ≤ page by omega)
    omega
  have start : 0 ≤ size * (page - 1) := Int.mul_nonneg (by omega) (by omega)
  have split : size * (page - 1) = size * page - size := by ring
  rw [@toInt32_of_bounds (page - 1) (by omega) (by omega), Int.mul_comm]
  exact toInt32_of_bounds (by omega) (by omega)

theorem asked_iff (ordinary : isParentObjectInfo unicode request = false)
    (decoded : getQueryModel unicode request = .ok first) (positive : 0 < size)
    (bounded : size * totalPages totalHits size < 0x80000000) (low : 1 ≤ page)
    (high : page ≤ totalPages totalHits size) {hit : Int} :
    Asked unicode request size page hit ↔ OnPage size page hit := by
  obtain ⟨model, made, offset, limit⟩ := getQueryModel_atPage ordinary decoded size page
  rw [offset_exact positive bounded low high] at offset
  constructor
  · rintro ⟨other, start, length, made_, starts, lasts, holds⟩
    cases made.symm.trans made_
    cases offset.symm.trans starts
    cases limit.symm.trans lasts
    exact holds
  · intro on
    exact ⟨model, _, _, made, offset, limit, on⟩

/-- The answer for this page carries this flag. -/
def Flagged (flag : String) (size : Int) (totalHits : Nat) (page : Int) : Prop :=
  (paginationInfo page size totalHits).get? flag = some (.bool true)

theorem hasNext_iff : Flagged "hasNext" size totalHits page ↔ page < totalPages totalHits size := by
  have flag : (paginationInfo page size totalHits).get? "hasNext" =
      some (.bool (page < totalPages totalHits size)) := rfl
  simp [Flagged, flag]

theorem hasPrevious_iff : Flagged "hasPrevious" size totalHits page ↔ 1 < page := by
  have flag : (paginationInfo page size totalHits).get? "hasPrevious" = some (.bool (page > 1)) := rfl
  simp [Flagged, flag]

/-- The pages of a client that starts at the first one and follows `hasNext`. -/
inductive Visited (size : Int) (totalHits : Nat) : Int → Prop
  | first : Visited size totalHits 1
  | next {page : Int} : Visited size totalHits page → Flagged "hasNext" size totalHits page →
      Visited size totalHits (page + 1)

theorem Visited.bounds (visited : Visited size totalHits page) :
    1 ≤ page ∧ page ≤ max 1 (totalPages totalHits size) := by
  induction visited with
  | first => omega
  | next visited more ih =>
      have below := hasNext_iff.mp more
      omega

theorem visited_of_le (count : Nat) (within : (count : Int) < totalPages totalHits size) :
    Visited size totalHits (count + 1) := by
  induction count with
  | zero => exact .first
  | succ count ih =>
      have earlier := ih (by omega)
      have more : Flagged "hasNext" size totalHits (count + 1) := hasNext_iff.mpr (by omega)
      have step := earlier.next more
      rw [Int.natCast_succ]
      exact step

theorem visited_iff : Visited size totalHits page ↔ 1 ≤ page ∧ page ≤ max 1 (totalPages totalHits size) := by
  refine ⟨Visited.bounds, fun ⟨low, high⟩ => ?_⟩
  by_cases start : page = 1
  · exact start ▸ .first
  · have reached := @visited_of_le size totalHits (page - 1).toNat (by omega)
    rwa [show ((page - 1).toNat : Int) + 1 = page by omega] at reached

theorem last_page_iff :
    Visited size totalHits page ∧ ¬Flagged "hasNext" size totalHits page ↔
      page = max 1 (totalPages totalHits size) := by
  rw [visited_iff, hasNext_iff]
  omega

/-- A client that walks the pages asks for every hit on exactly one of them. -/
theorem walk_visits_hits (ordinary : isParentObjectInfo unicode request = false)
    (decoded : getQueryModel unicode request = .ok first) (some_ : 1 ≤ size)
    (bounded : size * totalPages totalHits size < 0x80000000) :
    (∀ page other hit, 1 ≤ page → page ≤ totalPages totalHits size → 1 ≤ other →
        other ≤ totalPages totalHits size → Asked unicode request size page hit →
        Asked unicode request size other hit → page = other) ∧
      (∀ page, 1 ≤ page → page ≤ totalPages totalHits size →
        ∃ hit, 0 ≤ hit ∧ hit < (totalHits : Int) ∧ Asked unicode request size page hit) ∧
      (∀ hit, 0 ≤ hit → hit < (totalHits : Int) →
        ∃ page, 1 ≤ page ∧ page ≤ totalPages totalHits size ∧ Asked unicode request size page hit) ∧
      (∀ page, Visited size totalHits page ∧ ¬Flagged "hasNext" size totalHits page ↔
        page = max 1 (totalPages totalHits size)) ∧
      (∀ page, Flagged "hasPrevious" size totalHits page ↔ 1 < page) := by
  have positive : 0 < size := by omega
  refine ⟨?disjoint, ?used, ?cover, fun page => last_page_iff, fun page => hasPrevious_iff⟩
  case disjoint =>
    intro page other hit low high low' high' here there
    exact onPage_unique positive ((asked_iff ordinary decoded positive bounded low high).mp here)
      ((asked_iff ordinary decoded positive bounded low' high').mp there)
  case used =>
    intro page low high
    refine ⟨size * (page - 1), Int.mul_nonneg (by omega) (by omega), (le_totalPages_iff positive).mp high, ?_⟩
    exact (asked_iff ordinary decoded positive bounded low high).mpr ⟨Int.le_refl _, by omega⟩
  case cover =>
    intro hit exists_ counted
    obtain ⟨low, high⟩ := page_of_hit positive exists_ counted
    exact ⟨_, low, high,
      (asked_iff ordinary decoded positive bounded low high).mpr ((onPage_iff positive).mpr rfl)⟩

def satRequest : QueryDecoderRequestDTO where
  searchType := some "textSearch_"
  textSearchRequest := some ⟨some "sat", none, none⟩
  accessPolicyRequest := some ⟨none, none⟩

theorem walk_visits_hits_five :
    (isParentObjectInfo asciiUnicode satRequest = false ∧ 1 ≤ (2 : Int) ∧ (2 : Int) * totalPages 5 2 < 0x80000000) ∧
      ∃ page, 1 ≤ page ∧ page ≤ totalPages 5 2 ∧ Asked asciiUnicode satRequest 2 page 4 := by
  have ordinary : isParentObjectInfo asciiUnicode satRequest = false := by decide +kernel
  obtain ⟨first, decoded⟩ : ∃ first, getQueryModel asciiUnicode satRequest = .ok first := ⟨_, rfl⟩
  have bounded : (2 : Int) * totalPages 5 2 < 0x80000000 := by decide
  obtain ⟨-, -, cover, -, -⟩ := walk_visits_hits ordinary decoded (by decide) bounded
  exact ⟨⟨ordinary, by decide, bounded⟩, cover 4 (by decide) (by decide)⟩

end Tgdex.Properties
