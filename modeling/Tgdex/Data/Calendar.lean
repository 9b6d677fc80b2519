import Mathlib.Data.List.Basic
import Mathlib.Order.Monotone.Basic

namespace Tgdex.Data

/-! # Dates of the Gregorian calendar -/

def isLeap (year : Nat) : Bool := year % 4 == 0 && (year % 100 != 0 || year % 400 == 0)

def monthLength (year : Nat) : Nat → Nat
  | 0 => 0
  | 2 => if isLeap year then 29 else 28
  | 4 | 6 | 9 | 11 => 30
  | _ => 31

theorem monthLength_pos (year : Nat) {month : Nat} (some_ : 1 ≤ month) : 1 ≤ monthLength year month := by
  simp only [monthLength]
  split
  · omega
  · split <;> omega
  · omega
  · omega
  · omega
  · omega
  · omega

theorem monthLength_le (year month : Nat) : monthLength year month ≤ 31 := by
  simp only [monthLength]
  split
  · omega
  · split <;> omega
  · omega
  · omega
  · omega
  · omega
  · omega

structure Date where
  year : Nat
  month : Nat
  day : Nat
  month_valid : 1 ≤ month ∧ month ≤ 12
  day_valid : 1 ≤ day ∧ day ≤ monthLength year month
deriving DecidableEq

namespace Date

def of? (year month day : Nat) : Option Date :=
  if valid : (1 ≤ month ∧ month ≤ 12) ∧ 1 ≤ day ∧ day ≤ monthLength year month then
    some ⟨year, month, day, valid.1, valid.2⟩
  else none

@[simp] theorem of?_self (date : Date) : of? date.year date.month date.day = some date := by
  rw [of?, dif_pos ⟨date.month_valid, date.day_valid⟩]

/-- The day after. -/
def next (date : Date) : Date :=
  if inside : date.day < monthLength date.year date.month then
    ⟨date.year, date.month, date.day + 1, date.month_valid, by omega, inside⟩
  else if earlier : date.month < 12 then
    ⟨date.year, date.month + 1, 1, by omega, by omega, monthLength_pos _ (by omega)⟩
  else ⟨date.year + 1, 1, 1, by omega, by omega, monthLength_pos _ (by omega)⟩

def epoch : Date := ⟨1970, 1, 1, by decide, by decide⟩

/-- The date so many days after the epoch. -/
def ofDay : Nat → Date
  | 0 => epoch
  | days + 1 => (ofDay days).next

/-- The days before a year, from year 0 on. -/
def daysBeforeYear (year : Nat) : Nat := 365 * year + (year + 3) / 4 - (year + 99) / 100 + (year + 399) / 400

def daysBeforeMonth (year : Nat) : Nat → Nat
  | 0 => 0
  | month + 1 => daysBeforeMonth year month + monthLength year month

def dayNumber (date : Date) : Nat :=
  daysBeforeYear date.year + daysBeforeMonth date.year date.month + (date.day - 1)

theorem daysBeforeMonth_thirteen (year : Nat) : daysBeforeMonth year 13 = if isLeap year then 366 else 365 := by
  cases leap : isLeap year <;> simp [daysBeforeMonth, monthLength, leap]

theorem daysBeforeYear_succ (year : Nat) :
    daysBeforeYear (year + 1) = daysBeforeYear year + daysBeforeMonth year 13 := by
  have fours : (year + 1 + 3) / 4 = (year + 3) / 4 + if year % 4 = 0 then 1 else 0 := by split <;> omega
  have hundreds : (year + 1 + 99) / 100 = (year + 99) / 100 + if year % 100 = 0 then 1 else 0 := by split <;> omega
  have cycles : (year + 1 + 399) / 400 = (year + 399) / 400 + if year % 400 = 0 then 1 else 0 := by split <;> omega
  have fewer : (year + 99) / 100 ≤ 365 * year + (year + 3) / 4 := by omega
  rw [daysBeforeMonth_thirteen, daysBeforeYear, daysBeforeYear, fours, hundreds, cycles]
  have hundred : year % 100 = 0 → year % 4 = 0 := by omega
  have cycle : year % 400 = 0 → year % 100 = 0 := by omega
  by_cases four : year % 4 = 0 <;> by_cases century : year % 100 = 0 <;> by_cases last : year % 400 = 0 <;>
    simp [isLeap, four, century, last] <;> omega

theorem dayNumber_next (date : Date) : date.next.dayNumber = date.dayNumber + 1 := by
  have valid := date.day_valid
  simp only [next]
  split
  · simp only [dayNumber]
    omega
  · split
    · simp only [dayNumber, daysBeforeMonth]
      omega
    · have last : date.month = 12 := by
        have months := date.month_valid
        omega
      have year := daysBeforeYear_succ date.year
      have december : daysBeforeMonth date.year 13 = daysBeforeMonth date.year 12 + monthLength date.year 12 := rfl
      rw [last] at valid
      simp only [dayNumber, daysBeforeMonth, monthLength, last] at *
      omega

def epochDay : Nat := 719528

theorem dayNumber_ofDay (days : Nat) : (ofDay days).dayNumber = epochDay + days := by
  induction days with
  | zero => decide
  | succ days ih => rw [ofDay, dayNumber_next, ih, Nat.add_assoc]

theorem daysBeforeMonth_mono (year : Nat) : Monotone (daysBeforeMonth year) :=
  monotone_nat_of_le_succ fun _ => Nat.le_add_right _ _

theorem daysBeforeYear_mono : Monotone daysBeforeYear :=
  monotone_nat_of_le_succ fun year => by
    rw [daysBeforeYear_succ]
    exact Nat.le_add_right _ _

theorem inMonth (date : Date) :
    daysBeforeMonth date.year date.month + (date.day - 1) < daysBeforeMonth date.year (date.month + 1) := by
  have valid := date.day_valid
  rw [daysBeforeMonth]
  omega

/-- A year begins after all days of the years before it. -/
theorem year_lt_iff (date : Date) (year : Nat) : date.year < year ↔ date.dayNumber < daysBeforeYear year := by
  constructor
  · intro before
    have month := inMonth date
    have months : daysBeforeMonth date.year (date.month + 1) ≤ daysBeforeMonth date.year 13 :=
      daysBeforeMonth_mono date.year (by have := date.month_valid; omega)
    have years : daysBeforeYear (date.year + 1) ≤ daysBeforeYear year := daysBeforeYear_mono before
    rw [daysBeforeYear_succ] at years
    rw [dayNumber]
    omega
  · intro before
    by_contra later
    have years : daysBeforeYear year ≤ daysBeforeYear date.year := daysBeforeYear_mono (by omega)
    rw [dayNumber] at before
    omega

theorem year_le {first second : Date} (ordered : first.dayNumber ≤ second.dayNumber) : first.year ≤ second.year := by
  have next := (year_lt_iff second (second.year + 1)).1 (Nat.lt_succ_self _)
  exact Nat.lt_succ_iff.1 ((year_lt_iff first _).2 (Nat.lt_of_le_of_lt ordered next))

theorem month_le {first second : Date} (ordered : first.dayNumber ≤ second.dayNumber)
    (years : first.year = second.year) : first.month ≤ second.month := by
  by_contra later
  have month := inMonth second
  have months : daysBeforeMonth second.year (second.month + 1) ≤ daysBeforeMonth second.year first.month :=
    daysBeforeMonth_mono second.year (by omega)
  rw [dayNumber, dayNumber, years] at ordered
  omega

theorem day_le {first second : Date} (ordered : first.dayNumber ≤ second.dayNumber)
    (years : first.year = second.year) (months : first.month = second.month) : first.day ≤ second.day := by
  have counted := second.day_valid
  rw [dayNumber, dayNumber, years, months] at ordered
  omega

end Date

end Tgdex.Data
