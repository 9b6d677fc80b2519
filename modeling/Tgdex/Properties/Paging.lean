import Mathlib.Tactic.Ring
import Mathlib.Tactic.Tauto
import Tgdex.Search.Controller

namespace Tgdex.Properties

open Tgdex.Data Tgdex.Java Tgdex.Elastic Tgdex.Query Tgdex.Search

/-! # The page window of a search -/

variable {unicode : Unicode} {context : RoutingContext} {request : QueryDecoderRequestDTO} {model : QueryModel}
  {text : String} {size page : Int}

/-- What a search request is decoded to. -/
def decodeSearch (unicode : Unicode) (context : RoutingContext) : Except Throwable QueryModel := do
  getQueryModel unicode (← build unicode false false context)

/-- The window that docs/openapi.yaml describes, in exact integers. -/
def Windowed (size page : Int) (model : QueryModel) : Prop :=
  model.limit = some size ∧ ∃ offset, model.offset = some offset ∧ offset = size * (page - 1) ∧ 0 ≤ offset ∧
    offset + size ≤ 10000

/-- A window that Elasticsearch serves. -/
def InResultWindow (offset size : Int) : Prop := 0 ≤ offset ∧ offset + size ≤ 10000

theorem parseInt_lt (read : parseInt text = .ok page) : page < 0x80000000 := by
  simp only [parseInt] at read
  split at read
  · rename_i value _
    split at read
    · rename_i bounds
      cases read
      exact bounds.2
    · cases read
  · cases read

theorem page_lt (paged : getPage context = .ok page) : page < 0x80000000 := by
  simp only [getPage, intParameter] at paged
  split at paged
  · exact parseInt_lt paged
  · cases paged
    decide

theorem window_of_decoded (sized : getSize context = .ok size) (paged : getPage context = .ok page)
    (decoded : decodeSearch unicode context = .ok model) :
    model.limit = some size ∧ model.offset = some (toInt32 (toInt32 (page - 1) * size)) := by
  obtain ⟨request, built, modelled⟩ := bind_eq_ok.mp decoded
  obtain ⟨body, ownSize, ownPage, filter, -, sized_, paged_, -, hasSize, hasPage, -⟩ := parameters_of_build built
  obtain rfl := Except.ok.inj (sized.symm.trans sized_)
  obtain rfl := Except.ok.inj (paged.symm.trans paged_)
  simp only [getQueryModel, ordinary_of_build built, Bool.false_eq_true, if_false, bind_eq_ok] at modelled
  obtain ⟨queryMap, -, modelled⟩ := modelled
  split at modelled
  · cases modelled
  · simp only [hasSize, hasPage, pure, Except.pure, Except.ok.injEq] at modelled
    rw [← modelled]
    exact ⟨rfl, rfl⟩

/-- The window of a request that is accepted is the documented one exactly when
size times page stays within 10000.  Where Elasticsearch refuses windows, it is
so also when the 32-bit offset falls outside. -/
theorem page_window_iff (sized : getSize context = .ok size) (paged : getPage context = .ok page)
    (some_ : 1 ≤ size) (first : 1 ≤ page) (decoded : decodeSearch unicode context = .ok model) :
    (Windowed size page model ↔ size * page ≤ 10000) ∧
      (((∀ offset, model.offset = some offset → InResultWindow offset size) → Windowed size page model) ↔
        size * page ≤ 10000 ∨ ¬InResultWindow (toInt32 (size * (page - 1))) size) := by
  obtain ⟨limit, offset⟩ := window_of_decoded sized paged decoded
  have high := page_lt paged
  have back : toInt32 (page - 1) = page - 1 := toInt32_of_bounds (by omega) (by omega)
  rw [back, Int.mul_comm] at offset
  have product : size * (page - 1) + size = size * page := by ring
  have nonnegative : 0 ≤ size * (page - 1) := Int.mul_nonneg (by omega) (by omega)
  have windowed : Windowed size page model ↔ size * page ≤ 10000 := by
    refine ⟨fun shown => ?_, fun within => ?_⟩
    · obtain ⟨-, own, -, rfl, -, below⟩ := shown
      omega
    · have exact_ : toInt32 (size * (page - 1)) = size * (page - 1) := toInt32_of_bounds (by omega) (by omega)
      exact ⟨limit, _, offset, exact_, exact_.symm ▸ nonnegative, by omega⟩
  have served : (∀ own, model.offset = some own → InResultWindow own size) ↔
      InResultWindow (toInt32 (size * (page - 1))) size := by
    simp only [offset, Option.some.injEq, forall_eq']
  refine ⟨windowed, ?_⟩
  rw [served, windowed]
  tauto

def pageRequest (size page : String) : RoutingContext where
  body := some ⟨[("q", .str "sat")]⟩
  size := some size
  page := some page

theorem page_window_third :
    ∃ model, decodeSearch asciiUnicode (pageRequest "10" "3") = .ok model ∧
      (Windowed 10 3 model ↔ (10 : Int) * 3 ≤ 10000) := by
  obtain ⟨model, decoded⟩ : ∃ model, decodeSearch asciiUnicode (pageRequest "10" "3") = .ok model := ⟨_, rfl⟩
  have size : getSize (pageRequest "10" "3") = .ok 10 := by decide +kernel
  have page : getPage (pageRequest "10" "3") = .ok 3 := by decide +kernel
  exact ⟨model, decoded, (page_window_iff size page (by decide) (by decide) decoded).1⟩

/-- A page far beyond the window is served as one near the start. -/
theorem wrapped_page_accepted :
    ∃ model, decodeSearch asciiUnicode (pageRequest "100" "42949674") = .ok model ∧
      model.limit = some 100 ∧ model.offset = some 4 ∧ ¬Windowed 100 42949674 model := by
  obtain ⟨model, decoded⟩ : ∃ model, decodeSearch asciiUnicode (pageRequest "100" "42949674") = .ok model := ⟨_, rfl⟩
  have size : getSize (pageRequest "100" "42949674") = .ok 100 := by decide +kernel
  have page : getPage (pageRequest "100" "42949674") = .ok 42949674 := by decide +kernel
  obtain ⟨limit, offset⟩ := window_of_decoded size page decoded
  have wrapped : toInt32 (toInt32 (42949674 - 1) * 100) = 4 := by decide
  rw [wrapped] at offset
  refine ⟨model, decoded, limit, offset, fun shown => ?_⟩
  obtain ⟨-, own, given, exact_, -⟩ := shown
  obtain rfl := Option.some.inj (offset.symm.trans given)
  omega

end Tgdex.Properties
