import Mathlib.Data.Nat.Log
import Mathlib.Data.String.Basic
import Mathlib.Tactic.Ring
import Tgdex.Data.Calendar

namespace Tgdex.Data

/-! # Date-times as text -/

def digitChar (digit : Nat) : Char := Char.ofNat (48 + digit)

def digitOf (char : Char) : Option Nat :=
  if 48 ≤ char.toNat ∧ char.toNat < 58 then some (char.toNat - 48) else none

/-- So many of the last digits of a number. -/
def lastDigits : Nat → Nat → List Char
  | 0, _ => []
  | width + 1, value => digitChar (value / 10 ^ width % 10) :: lastDigits width value

/-- A number with zeros in front up to the width, and longer if it has to be. -/
def padded (width value : Nat) : List Char := lastDigits (max width (Nat.log 10 value + 1)) value

def readDigits : Nat → Nat → List Char → Option (Nat × List Char)
  | 0, value, rest => some (value, rest)
  | _ + 1, _, [] => none
  | width + 1, value, char :: rest =>
      match digitOf char with
      | some digit => readDigits width (10 * value + digit) rest
      | none => none

theorem toNat_digitChar {digit : Nat} (small : digit < 10) : (digitChar digit).toNat = 48 + digit := by
  have every : ∀ digit < 10, (digitChar digit).toNat = 48 + digit := by decide
  exact every digit small

theorem digitOf_digitChar {digit : Nat} (small : digit < 10) : digitOf (digitChar digit) = some digit := by
  rw [digitOf, toNat_digitChar small, if_pos (by omega)]
  congr 1
  omega

theorem readDigits_lastDigits (width value start : Nat) (rest : List Char) :
    readDigits width start (lastDigits width value ++ rest) = some (start * 10 ^ width + value % 10 ^ width, rest) := by
  induction width generalizing start with
  | zero => simp [readDigits, lastDigits, Nat.mod_one]
  | succ width ih =>
      have small : value / 10 ^ width % 10 < 10 := Nat.mod_lt _ (by decide)
      have power : value % 10 ^ (width + 1) = value % 10 ^ width + 10 ^ width * (value / 10 ^ width % 10) :=
        Nat.mod_pow_succ
      rw [lastDigits, List.cons_append, readDigits, digitOf_digitChar small]
      simp only [ih, power]
      congr 2
      ring

theorem padded_of_lt {width value : Nat} (some_ : 0 < width) (fits : value < 10 ^ width) :
    padded width value = lastDigits width value := by
  have short : Nat.log 10 value + 1 ≤ width := by
    by_cases zero : value = 0
    · simp [zero]
      omega
    · exact Nat.log_lt_of_lt_pow zero fits
  rw [padded, Nat.max_eq_left short]

theorem readDigits_padded {width value : Nat} (some_ : 0 < width) (fits : value < 10 ^ width) (rest : List Char) :
    readDigits width 0 (padded width value ++ rest) = some (value, rest) := by
  rw [padded_of_lt some_ fits, readDigits_lastDigits, Nat.zero_mul, Nat.zero_add, Nat.mod_eq_of_lt fits]

theorem lastDigits_add (width extra value : Nat) :
    lastDigits (width + extra) value = lastDigits width (value / 10 ^ extra) ++ lastDigits extra value := by
  induction width with
  | zero => rw [Nat.zero_add, lastDigits, List.nil_append]
  | succ width ih =>
      have digits : width + 1 + extra = width + extra + 1 := by omega
      rw [digits, lastDigits, lastDigits, ih, List.cons_append, Nat.div_div_eq_div_mul, ← Nat.pow_add,
        Nat.add_comm extra width]

/-- A number that is too long leaves a digit behind. -/
theorem readDigits_long {width value : Nat} (long : 10 ^ width ≤ value) (rest : List Char) :
    ∃ front digit tail, digit < 10 ∧
      readDigits width 0 (padded width value ++ rest) = some (front, digitChar digit :: tail) := by
  have more : width < Nat.log 10 value + 1 := Nat.lt_succ_of_le (Nat.le_log_of_pow_le (by decide) long)
  obtain ⟨extra, length⟩ := Nat.exists_eq_add_of_lt more
  have longer : max width (Nat.log 10 value + 1) = width + (extra + 1) := by omega
  have split : padded width value ++ rest = lastDigits width (value / 10 ^ (extra + 1)) ++
      (digitChar (value / 10 ^ extra % 10) :: (lastDigits extra value ++ rest)) := by
    rw [padded, longer, lastDigits_add, lastDigits, List.append_assoc, List.cons_append]
  rw [split, readDigits_lastDigits]
  exact ⟨_, _, _, Nat.mod_lt _ (by decide), rfl⟩

def readChar (expected : Char) : List Char → Option (List Char)
  | char :: rest => if char = expected then some rest else none
  | [] => none

/-- A number of two digits after a separator. -/
def readPart (separator : Char) (chars : List Char) : Option (Nat × List Char) :=
  (readChar separator chars).bind (readDigits 2 0)

theorem readPart_padded {separator : Char} {value : Nat} (short : value < 100) (rest : List Char) :
    readPart separator (separator :: (padded 2 value ++ rest)) = some (value, rest) := by
  rw [readPart, readChar, if_pos rfl, Option.bind_some, readDigits_padded (by decide) short]

def writeDate (date : Date) : List Char :=
  padded 4 date.year ++ '-' :: (padded 2 date.month ++ '-' :: padded 2 date.day)

/-- A date whose year has four digits. -/
def readDate (chars : List Char) : Option (Date × List Char) := do
  let (year, rest) ← readDigits 4 0 chars
  let (month, rest) ← readPart '-' rest
  let (day, rest) ← readPart '-' rest
  let date ← Date.of? year month day
  return (date, rest)

theorem readDate_writeDate {date : Date} (short : date.year < 10000) (rest : List Char) :
    readDate (writeDate date ++ rest) = some (date, rest) := by
  have month := date.month_valid
  have day := date.day_valid
  have length := monthLength_le date.year date.month
  rw [writeDate, List.append_assoc, List.cons_append, List.append_assoc, List.cons_append, readDate,
    readDigits_padded (by decide) short]
  simp only [Option.bind_eq_bind, Option.bind_some]
  rw [readPart_padded (by omega)]
  simp only [Option.bind_some]
  rw [readPart_padded (by omega)]
  simp only [Option.bind_some, Date.of?_self]
  rfl

theorem readDate_writeDate_long {date : Date} (long : 10000 ≤ date.year) (rest : List Char) :
    readDate (writeDate date ++ rest) = none := by
  obtain ⟨front, digit, tail, small, read⟩ :=
    @readDigits_long 4 date.year long ('-' :: (padded 2 date.month ++ '-' :: (padded 2 date.day ++ rest)))
  have differs : digitChar digit ≠ '-' := by
    intro same
    have code := toNat_digitChar small
    rw [same] at code
    have dash : '-'.toNat = 45 := rfl
    omega
  have stuck : readPart '-' (digitChar digit :: tail) = none := by
    rw [readPart, readChar, if_neg differs, Option.bind_none]
  rw [writeDate, List.append_assoc, List.cons_append, List.append_assoc, List.cons_append, readDate, read]
  simp only [Option.bind_eq_bind, Option.bind_some, stuck, Option.bind_none]

def writeTime (hour minute second : Nat) : List Char :=
  'T' :: (padded 2 hour ++ ':' :: (padded 2 minute ++ ':' :: padded 2 second))

/-- The second of the day on a clock of 24 hours. -/
def readTime (chars : List Char) : Option (Nat × List Char) := do
  let (hour, rest) ← readPart 'T' chars
  let (minute, rest) ← readPart ':' rest
  let (second, rest) ← readPart ':' rest
  if hour < 24 ∧ minute < 60 ∧ second < 60 then some (3600 * hour + 60 * minute + second, rest) else none

theorem readTime_writeTime {hour minute second : Nat} (hours : hour < 24) (minutes : minute < 60)
    (seconds : second < 60) (rest : List Char) :
    readTime (writeTime hour minute second ++ rest) = some (3600 * hour + 60 * minute + second, rest) := by
  rw [writeTime, List.cons_append, List.append_assoc, List.cons_append, List.append_assoc, List.cons_append, readTime,
    readPart_padded (by omega)]
  simp only [Option.bind_eq_bind, Option.bind_some]
  rw [readPart_padded (by omega)]
  simp only [Option.bind_some]
  rw [readPart_padded (by omega)]
  simp only [Option.bind_some, hours, minutes, seconds, and_self, if_true]

/-- Hours and minutes, with or without a colon between them. -/
def readHoursMinutes (chars : List Char) : Option Nat := do
  let (hours, rest) ← readDigits 2 0 chars
  let (minutes, rest) ← readDigits 2 0 ((readChar ':' rest).getD rest)
  if rest = [] ∧ hours ≤ 18 ∧ minutes < 60 then some (3600 * hours + 60 * minutes) else none

/-- The seconds by which a clock is ahead of UTC. -/
def readOffset : List Char → Option Int
  | ['Z'] => some 0
  | '+' :: rest => (readHoursMinutes rest).map fun ahead => (ahead : Int)
  | '-' :: rest => (readHoursMinutes rest).map fun behind => -(behind : Int)
  | _ => none

/-- The second of the epoch at which a clock so far ahead of UTC shows this. -/
def instant (date : Date) (seconds : Nat) (ahead : Int) : Int :=
  86400 * ((date.dayNumber : Int) - Date.epochDay) + seconds - ahead

def readDateTime (chars : List Char) : Option Int := do
  let (date, rest) ← readDate chars
  let (seconds, rest) ← readTime rest
  let ahead ← readOffset rest
  return instant date seconds ahead

theorem readDateTime_written {date : Date} {hour minute second : Nat} {offset : List Char} {ahead : Int}
    (hours : hour < 24) (minutes : minute < 60) (seconds : second < 60) (written : readOffset offset = some ahead) :
    readDateTime (writeDate date ++ (writeTime hour minute second ++ offset)) =
      if date.year < 10000 then some (instant date (3600 * hour + 60 * minute + second) ahead) else none := by
  split
  · rename_i short
    rw [readDateTime, readDate_writeDate short]
    simp only [Option.bind_eq_bind, Option.bind_some, readTime_writeTime hours minutes seconds, written]
    rfl
  · rename_i long
    rw [readDateTime, readDate_writeDate_long (by omega)]
    rfl

/-- What a clock so many seconds ahead of UTC shows. -/
structure WallClock where
  date : Date
  hour : Nat
  minute : Nat
  second : Nat
  ahead : Nat
  hour_valid : hour < 24
  minute_valid : minute < 60
  second_valid : second < 60

/-- What the clock shows so many milliseconds after the epoch. -/
def WallClock.at (millis ahead : Nat) : WallClock :=
  let shown := millis / 1000 + ahead
  ⟨Date.ofDay (shown / 86400), shown % 86400 / 3600, shown % 3600 / 60, shown % 60, ahead, by omega, by omega,
    Nat.mod_lt _ (by decide)⟩

theorem WallClock.seconds_at (millis ahead : Nat) :
    let clock := WallClock.at millis ahead
    86400 * ((millis / 1000 + ahead) / 86400) + 3600 * clock.hour + 60 * clock.minute + clock.second =
      millis / 1000 + ahead := by
  simp only [WallClock.at]
  omega

/-- The hour on a clock of twelve hours. -/
def clockHour (hour : Nat) : Nat := if hour % 12 = 0 then 12 else hour % 12

theorem clockHour_lt (hour : Nat) : clockHour hour < 24 := by
  rw [clockHour]
  split <;> omega

theorem clockHour_eq_iff {hour : Nat} (valid : hour < 24) : clockHour hour = hour ↔ 1 ≤ hour ∧ hour ≤ 12 := by
  rw [clockHour]
  split <;> omega

/-- The letters `yyyy`, `MM`, `dd`, `hh`, `mm`, `ss` and `Z` of a pattern. -/
inductive Letter where
  | literal (char : Char)
  | year
  | month
  | day
  | clockHour
  | minute
  | second
  | zone
deriving DecidableEq

def Letter.write (clock : WallClock) : Letter → List Char
  | .literal char => [char]
  | .year => padded 4 clock.date.year
  | .month => padded 2 clock.date.month
  | .day => padded 2 clock.date.day
  | .clockHour => padded 2 (Data.clockHour clock.hour)
  | .minute => padded 2 clock.minute
  | .second => padded 2 clock.second
  | .zone => '+' :: (padded 2 (clock.ahead / 3600) ++ padded 2 (clock.ahead / 60 % 60))

def format (pattern : List Letter) (clock : WallClock) : String := String.ofList (pattern.flatMap (·.write clock))

theorem digitChar_lt {first second : Nat} (less : first < second) (small : second < 10) :
    digitChar first < digitChar second := by
  have every : ∀ second < 10, ∀ first < second, digitChar first < digitChar second := by decide
  exact every second small first less

/-- Numbers of one width are in the order of their texts, whatever follows. -/
theorem lastDigits_lt {width first second : Nat} (less : first % 10 ^ width < second % 10 ^ width)
    (after afterSecond : List Char) : lastDigits width first ++ after < lastDigits width second ++ afterSecond := by
  induction width with
  | zero =>
      rw [Nat.pow_zero, Nat.mod_one, Nat.mod_one] at less
      exact absurd less (Nat.lt_irrefl 0)
  | succ width ih =>
      rw [Nat.mod_pow_succ, Nat.mod_pow_succ] at less
      have rest : second % 10 ^ width < 10 ^ width := Nat.mod_lt _ (Nat.pow_pos (by decide))
      have digit : second / 10 ^ width % 10 < 10 := Nat.mod_lt _ (by decide)
      simp only [lastDigits, List.cons_append]
      apply List.cons_lt_cons_iff.2
      rcases Nat.lt_trichotomy (first / 10 ^ width % 10) (second / 10 ^ width % 10) with smaller | same | larger
      · exact Or.inl (digitChar_lt smaller digit)
      · rw [same] at less
        exact Or.inr ⟨congrArg digitChar same, ih (by omega)⟩
      · have carried := Nat.mul_le_mul_left (10 ^ width) (Nat.succ_le_of_lt larger)
        rw [Nat.mul_succ] at carried
        omega

theorem padded_le {width first second : Nat} {after afterSecond : List Char} (some_ : 0 < width)
    (ordered : first ≤ second) (fits : second < 10 ^ width) (rest : first = second → after ≤ afterSecond) :
    padded width first ++ after ≤ padded width second ++ afterSecond := by
  rw [padded_of_lt some_ fits, padded_of_lt some_ (Nat.lt_of_le_of_lt ordered fits)]
  rcases Nat.lt_or_eq_of_le ordered with less | same
  · apply le_of_lt
    apply lastDigits_lt
    rw [Nat.mod_eq_of_lt fits, Nat.mod_eq_of_lt (Nat.lt_of_le_of_lt ordered fits)]
    exact less
  · rw [same]
    rcases lt_or_eq_of_le (rest same) with less | equal
    · exact le_of_lt (List.append_left_lt less)
    · exact le_of_eq (congrArg _ equal)

theorem cons_le {char : Char} {after afterSecond : List Char} (rest : after ≤ afterSecond) :
    char :: after ≤ char :: afterSecond := List.cons_le_cons char rest

/-- Two days in their order, with a text after each that decides between the
same days. -/
theorem writeDate_le {first second : Date} {after afterSecond : List Char}
    (ordered : first.dayNumber ≤ second.dayNumber) (short : second.year < 10000)
    (rest : first.dayNumber = second.dayNumber → after ≤ afterSecond) :
    writeDate first ++ after ≤ writeDate second ++ afterSecond := by
  have month := second.month_valid
  have day := second.day_valid
  have length := monthLength_le second.year second.month
  simp only [writeDate, List.append_assoc, List.cons_append]
  refine padded_le (by decide) (Date.year_le ordered) short fun years => cons_le ?_
  refine padded_le (by decide) (Date.month_le ordered years) (by omega) fun months => cons_le ?_
  refine padded_le (by decide) (Date.day_le ordered years months) (by omega) fun days => rest ?_
  rw [Date.dayNumber, Date.dayNumber, years, months, days]

theorem writeTime_le {hour minute second hour' minute' second' : Nat} (after : List Char)
    (ordered : 3600 * hour + 60 * minute + second ≤ 3600 * hour' + 60 * minute' + second')
    (hours : hour' < 24) (minutes : minute < 60 ∧ minute' < 60) (seconds : second < 60 ∧ second' < 60) :
    writeTime hour minute second ++ after ≤ writeTime hour' minute' second' ++ after := by
  simp only [writeTime, List.append_assoc, List.cons_append]
  apply cons_le
  refine padded_le (by decide) (by omega) (by omega) fun sameHour => cons_le ?_
  refine padded_le (by decide) (by omega) (by omega) fun sameMinute => cons_le ?_
  exact padded_le (by decide) (by omega) (by omega) fun _ => le_refl _

end Tgdex.Data
