import Tgdex.Data.DateTime
import Tgdex.Items.Validator

namespace Tgdex.Items

open Tgdex.Data Tgdex.Java

/-! # The timestamps of items -/

/-- The seconds by which India is ahead of UTC. -/
def ist : Nat := 19800

/-- `yyyy-MM-dd'T'hh:mm:ssZ` -/
def timestampPattern : List Letter :=
  [.year, .literal '-', .month, .literal '-', .day, .literal 'T', .clockHour, .literal ':', .minute, .literal ':',
    .second, .zone]

/-- The text of the moment so many milliseconds after the epoch. -/
def getUtcDatetimeAsString (now : Nat) : String := format timestampPattern (WallClock.at now ist)

theorem toList_format_timestampPattern (clock : WallClock) :
    (format timestampPattern clock).toList =
      writeDate clock.date ++
        (writeTime (clockHour clock.hour) clock.minute clock.second ++ Letter.zone.write clock) := by
  simp [timestampPattern, format, Letter.write, writeDate, writeTime]

theorem zone_ist (now : Nat) : Letter.zone.write (WallClock.at now ist) = "+0530".toList := by
  have halves : Letter.zone.write (WallClock.at now ist) = '+' :: (padded 2 5 ++ padded 2 30) := by
    simp [Letter.write, WallClock.at, ist]
  rw [halves, padded_of_lt (by decide) (by decide), padded_of_lt (by decide) (by decide)]
  decide

theorem readOffset_ist (now : Nat) : readOffset (Letter.zone.write (WallClock.at now ist)) = some ist := by
  rw [zone_ist]
  decide

/-- The text is read back late or early by as much as its hour is. -/
theorem readDateTime_getUtcDatetimeAsString (now : Nat) :
    let clock := WallClock.at now ist
    readDateTime (getUtcDatetimeAsString now).toList =
      if clock.date.year < 10000 then
        some ((now / 1000 : Nat) + 3600 * ((clockHour clock.hour : Int) - clock.hour))
      else none := by
  have clock := WallClock.seconds_at now ist
  have day : ((WallClock.at now ist).date.dayNumber : Int) - Date.epochDay = ((now / 1000 + ist) / 86400 : Nat) := by
    rw [WallClock.at, Date.dayNumber_ofDay]
    omega
  rw [getUtcDatetimeAsString, toList_format_timestampPattern, readDateTime_written (clockHour_lt _)
    (WallClock.at now ist).minute_valid (WallClock.at now ist).second_valid (readOffset_ist now), instant, day]
  congr 2
  simp only at clock
  omega

/-- The texts are in order where the hours they show are those of the day. -/
theorem getUtcDatetimeAsString_le {first second : Nat} (ordered : first ≤ second)
    (short : (WallClock.at second ist).date.year < 10000)
    (shown : clockHour (WallClock.at first ist).hour = (WallClock.at first ist).hour)
    (shownSecond : clockHour (WallClock.at second ist).hour = (WallClock.at second ist).hour) :
    getUtcDatetimeAsString first ≤ getUtcDatetimeAsString second := by
  have firstClock := WallClock.seconds_at first ist
  have secondClock := WallClock.seconds_at second ist
  have days : (WallClock.at first ist).date.dayNumber = Date.epochDay + (first / 1000 + ist) / 86400 :=
    Date.dayNumber_ofDay _
  have secondDays : (WallClock.at second ist).date.dayNumber = Date.epochDay + (second / 1000 + ist) / 86400 :=
    Date.dayNumber_ofDay _
  have seconds : first / 1000 ≤ second / 1000 := Nat.div_le_div_right ordered
  simp only at firstClock secondClock
  apply String.le_iff_toList_le.2
  rw [getUtcDatetimeAsString, getUtcDatetimeAsString, toList_format_timestampPattern, toList_format_timestampPattern,
    shown, shownSecond, zone_ist, zone_ist]
  refine writeDate_le (by omega) short fun sameDay => ?_
  apply writeTime_le _ (by omega) (WallClock.at second ist).hour_valid
  · exact ⟨(WallClock.at first ist).minute_valid, (WallClock.at second ist).minute_valid⟩
  · exact ⟨(WallClock.at first ist).second_valid, (WallClock.at second ist).second_valid⟩

end Tgdex.Items
