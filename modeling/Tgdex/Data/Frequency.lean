import Mathlib.Data.List.Dedup
import Mathlib.Data.List.Perm.Subperm

namespace Tgdex.Data

/-! # The most frequent values of a list -/

variable {α : Type} [DecidableEq α] {limit : Nat} {occurrences kept : List α}

/-- A choice of as many of the most frequent values as the limit allows. -/
structure MostFrequent (limit : Nat) (occurrences kept : List α) : Prop where
  distinct : kept.Nodup
  occurs : ∀ value ∈ kept, value ∈ occurrences
  length : kept.length = min limit occurrences.dedup.length
  ranked : ∀ value ∈ kept, ∀ other ∈ occurrences, other ∉ kept → occurrences.count other ≤ occurrences.count value

theorem MostFrequent.eq_nil_iff (most : MostFrequent limit occurrences kept) (some_ : 0 < limit) :
    kept = [] ↔ occurrences = [] := by
  refine ⟨fun none_ => ?_, fun none_ => ?_⟩
  · have lengths := most.length
    rw [none_, List.length_nil] at lengths
    have nothing : occurrences.dedup.length = 0 := by omega
    rwa [List.length_eq_zero_iff, List.dedup_eq_nil] at nothing
  · cases kept with
    | nil => rfl
    | cons value rest => exact absurd (none_ ▸ most.occurs value List.mem_cons_self) List.not_mem_nil

/-- Nothing is left out exactly when the limit is not exceeded. -/
theorem MostFrequent.all_kept_iff (most : MostFrequent limit occurrences kept) :
    (∀ value ∈ occurrences, value ∈ kept) ↔ occurrences.dedup.length ≤ limit := by
  have lengths := most.length
  refine ⟨fun all => ?_, fun within => ?_⟩
  · have inside : occurrences.dedup ⊆ kept := fun value member => all value (List.mem_dedup.mp member)
    have shorter := ((List.nodup_dedup occurrences).subperm inside).length_le
    omega
  · have inside : kept ⊆ occurrences.dedup := fun value member => List.mem_dedup.mpr (most.occurs value member)
    have same : kept.Perm occurrences.dedup :=
      (most.distinct.subperm inside).perm_of_length_le (by omega)
    exact fun value member => same.mem_iff.mpr (List.mem_dedup.mpr member)

theorem mostFrequent_take (distinct : occurrences.Nodup) (limit : Nat) :
    MostFrequent limit occurrences (occurrences.take limit) where
  distinct := distinct.sublist (List.take_sublist limit occurrences)
  occurs := fun _ member => List.mem_of_mem_take member
  length := by rw [List.length_take, distinct.dedup]
  ranked := by
    intro value member other inside _
    have once := List.count_eq_one_of_mem distinct inside
    have keptOnce := List.count_eq_one_of_mem distinct (List.mem_of_mem_take member)
    omega

end Tgdex.Data
