import Mathlib.Data.List.Nodup
import Mathlib.Data.List.Range

namespace Tgdex.Data

/-! # The order a chained hash table is walked in -/

section

variable {α : Type} {buckets : Nat} {bucket : α → Nat} {entries : List α}

/-- A table of chains, walked bucket by bucket.  A chain keeps the order in
which its entries came. -/
def walk (buckets : Nat) (bucket : α → Nat) (entries : List α) : List α :=
  (List.range buckets).flatMap fun index => entries.filter fun entry => bucket entry == index

theorem pairwise_walk : (walk buckets bucket entries).Pairwise fun first second => bucket first ≤ bucket second := by
  rw [walk, List.pairwise_flatMap]
  refine ⟨fun index _ => ?_, ?_⟩
  · refine List.pairwise_of_forall_mem_list ?_
    intro first inFirst second inSecond
    have firstIndex := (List.mem_filter.mp inFirst).2
    have secondIndex := (List.mem_filter.mp inSecond).2
    rw [beq_iff_eq] at firstIndex secondIndex
    omega
  · refine List.pairwise_lt_range.imp ?_
    intro lower upper below first inFirst second inSecond
    have firstIndex := (List.mem_filter.mp inFirst).2
    have secondIndex := (List.mem_filter.mp inSecond).2
    rw [beq_iff_eq] at firstIndex secondIndex
    omega

/-- A list in bucket order is its entries below a bucket, and then the others. -/
theorem split_at_bucket (bound : Nat) (ordered : entries.Pairwise fun first second => bucket first ≤ bucket second) :
    (entries.filter fun entry => decide (bucket entry < bound)) ++
      (entries.filter fun entry => decide (bound ≤ bucket entry)) = entries := by
  induction entries with
  | nil => rfl
  | cons entry rest ih =>
      obtain ⟨least, tail⟩ := List.pairwise_cons.mp ordered
      by_cases below : bucket entry < bound
      · rw [List.filter_cons_of_pos (by simpa using below), List.filter_cons_of_neg (by simpa using below),
          List.cons_append, ih tail]
      · have none_ : (rest.filter fun entry => decide (bucket entry < bound)) = [] := by
          rw [List.filter_eq_nil_iff]
          intro other member
          have above := least other member
          simp only [decide_eq_true_eq]
          omega
        have all : (rest.filter fun entry => decide (bound ≤ bucket entry)) = rest := by
          have rest_ := ih tail
          rwa [none_, List.nil_append] at rest_
        rw [List.filter_cons_of_neg (by simpa using below), List.filter_cons_of_pos (by simpa using below), none_, all,
          List.nil_append]

theorem walk_of_ordered (ordered : entries.Pairwise fun first second => bucket first ≤ bucket second)
    (fits : ∀ entry ∈ entries, bucket entry < buckets) : walk buckets bucket entries = entries := by
  induction buckets generalizing entries with
  | zero =>
      cases entries with
      | nil => rfl
      | cons entry rest => exact absurd (fits entry List.mem_cons_self) (Nat.not_lt_zero _)
  | succ buckets ih =>
      let lower := entries.filter fun entry => decide (bucket entry < buckets)
      have below : walk buckets bucket lower = lower := by
        refine ih (ordered.filter _) fun entry member => ?_
        simpa using (List.mem_filter.mp member).2
      have walked : walk buckets bucket entries = walk buckets bucket lower := by
        refine List.flatMap_congr fun index member => ?_
        rw [List.filter_filter]
        refine List.filter_congr fun entry _ => ?_
        have small := List.mem_range.mp member
        by_cases same : bucket entry = index
        · simp [same, small]
        · simp [same]
      have last : (entries.filter fun entry => bucket entry == buckets) =
          entries.filter fun entry => decide (buckets ≤ bucket entry) := by
        refine List.filter_congr fun entry member => ?_
        have fit := fits entry member
        rw [Bool.eq_iff_iff, beq_iff_eq, decide_eq_true_eq]
        omega
      calc walk (buckets + 1) bucket entries
        _ = walk buckets bucket entries ++ entries.filter fun entry => bucket entry == buckets := by
            simp [walk, List.range_succ, List.flatMap_append]
        _ = lower ++ entries.filter fun entry => decide (buckets ≤ bucket entry) := by rw [walked, below, last]
        _ = entries := split_at_bucket buckets ordered

/-- A table is walked in the order in which it was filled exactly when the
entries came in bucket order. -/
theorem walk_eq_iff (fits : ∀ entry ∈ entries, bucket entry < buckets) :
    walk buckets bucket entries = entries ↔ entries.Pairwise fun first second => bucket first ≤ bucket second := by
  refine ⟨fun same => ?_, fun ordered => walk_of_ordered ordered fits⟩
  rw [← same]
  exact pairwise_walk

end

def utf16Units (char : Char) : List UInt32 :=
  if char.toNat < 0x10000 then [char.val]
  else [0xD800 + (char.val - 0x10000) / 0x400, 0xDC00 + (char.val - 0x10000) % 0x400]

/-- `text.hashCode()`. -/
def hashCode (text : String) : UInt32 :=
  (text.toList.flatMap utf16Units).foldl (fun hash unit => 31 * hash + unit) 0

/-- The high half of a hash is folded into the low one. -/
def spread (hash : UInt32) : UInt32 := hash ^^^ (hash >>> 16)

/-- A table that has not grown: it does so from the thirteenth entry on. -/
def tableSize : Nat := 16

def bucketOf (key : String) : Nat := (spread (hashCode key)).toNat % tableSize

theorem bucketOf_lt (key : String) : bucketOf key < tableSize := Nat.mod_lt _ (by decide)

/-- `map.entrySet()` of a HashMap, by the order in which its keys were put. -/
def entrySet {β : Type} (puts : List (String × β)) : List (String × β) :=
  walk tableSize (fun entry => bucketOf entry.1) puts

theorem entrySet_eq_iff {β : Type} {puts : List (String × β)} :
    entrySet puts = puts ↔ (puts.map Prod.fst).Pairwise fun first second => bucketOf first ≤ bucketOf second := by
  rw [entrySet, walk_eq_iff fun entry _ => bucketOf_lt entry.1, List.pairwise_map]

end Tgdex.Data
