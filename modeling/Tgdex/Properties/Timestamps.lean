import Tgdex.Items.Timestamps

namespace Tgdex.Properties

open Tgdex.Data Tgdex.Java Tgdex.Items

/-! # The instants that timestamps denote -/

/-- The text of an instant is read back as it, less the part of a second. -/
def Denotes (now : Nat) : Prop := readDateTime (getUtcDatetimeAsString now).toList = some ((now / 1000 : Nat) : Int)

structure DenoteInOrder (first second : Nat) : Prop where
  first_denotes : Denotes first
  second_denotes : Denotes second
  ordered : getUtcDatetimeAsString first ≤ getUtcDatetimeAsString second

/-- It is after one and before thirteen o'clock in India, in a year of four digits. -/
def OnClock (now : Nat) : Prop :=
  1 ≤ (now / 1000 + ist) % 86400 / 3600 ∧ (now / 1000 + ist) % 86400 / 3600 ≤ 12 ∧ now < 253402281000000

instance (now : Nat) : Decidable (OnClock now) := inferInstanceAs (Decidable (_ ∧ _))

theorem year_at_lt_iff (now : Nat) : (WallClock.at now ist).date.year < 10000 ↔ now < 253402281000000 := by
  have days : (WallClock.at now ist).date.dayNumber = Date.epochDay + (now / 1000 + ist) / 86400 :=
    Date.dayNumber_ofDay _
  have last : Date.daysBeforeYear 10000 = 3652425 := by decide
  rw [Date.year_lt_iff, days, last, Date.epochDay, ist]
  omega

theorem onClock_iff (now : Nat) :
    OnClock now ↔ clockHour (WallClock.at now ist).hour = (WallClock.at now ist).hour ∧
      (WallClock.at now ist).date.year < 10000 := by
  rw [clockHour_eq_iff (WallClock.at now ist).hour_valid, year_at_lt_iff]
  exact and_assoc.symm

theorem denotes_iff (now : Nat) : Denotes now ↔ OnClock now := by
  rw [onClock_iff, Denotes, readDateTime_getUtcDatetimeAsString]
  split
  · rename_i short
    rw [Option.some_inj]
    constructor
    · intro exactly
      exact ⟨by omega, short⟩
    · intro shown
      omega
  · rename_i long
    simp [long]

/-- Two timestamps denote their instants and are in their order exactly when
both were taken between one and thirteen o'clock. -/
theorem timestamps_denote_iff (first second : Nat) (ordered : first ≤ second) :
    DenoteInOrder first second ↔ OnClock first ∧ OnClock second := by
  constructor
  · intro both
    exact ⟨(denotes_iff first).1 both.first_denotes, (denotes_iff second).1 both.second_denotes⟩
  · rintro ⟨onClock, secondOnClock⟩
    have shown := ((onClock_iff first).1 onClock).1
    obtain ⟨secondShown, short⟩ := (onClock_iff second).1 secondOnClock
    exact ⟨(denotes_iff first).2 onClock, (denotes_iff second).2 secondOnClock,
      getUtcDatetimeAsString_le ordered short shown secondShown⟩

/-- Six and seven o'clock in the morning. -/
theorem morning_timestamps_denote : DenoteInOrder 1800000 5400000 :=
  (timestamps_denote_iff 1800000 5400000 (by decide)).2 (by decide)

/-- Half past one in the afternoon reads as half past one in the night, before
the half past twelve that it follows. -/
theorem afternoon_read_early :
    25200000 ≤ 28800000 ∧ ¬ DenoteInOrder 25200000 28800000 ∧
      readDateTime (getUtcDatetimeAsString 25200000).toList = some 25200 ∧
      readDateTime (getUtcDatetimeAsString 28800000).toList = some (-14400) := by
  refine ⟨by decide, ?_, ?_, ?_⟩
  · intro both
    have onClock := (denotes_iff 28800000).1 both.second_denotes
    exact absurd onClock (by decide)
  · rw [readDateTime_getUtcDatetimeAsString]
    decide
  · rw [readDateTime_getUtcDatetimeAsString]
    decide

/-- The creation time of an item is read back as the time of its request
under the same condition. -/
theorem created_at_denotes_iff (request : JsonObject) (moment : Moment) (now : Nat)
    (taken : moment.itemCreatedAt = getUtcDatetimeAsString now) :
    (∃ text, (setCommonFields request moment).get? "itemCreatedAt" = some (.str text) ∧
      readDateTime text.toList = some ((now / 1000 : Nat) : Int)) ↔ OnClock now := by
  have stamped : (setCommonFields request moment).get? "itemCreatedAt" = some (.str (getUtcDatetimeAsString now)) := by
    rw [setCommonFields, JsonObject.get?_put_self, taken]
  rw [← denotes_iff, Denotes]
  constructor
  · rintro ⟨text, found, read⟩
    obtain rfl : getUtcDatetimeAsString now = text := by simpa using stamped.symm.trans found
    exact read
  · intro read
    exact ⟨_, stamped, read⟩

end Tgdex.Properties
