import ExportWatch.Proofs.Time.Written
import Mathlib.Data.Prod.Lex
import Mathlib.Data.Rat.Cast.Order
import Mathlib.Tactic.Linarith

/-! The instants that timestamps denote, and the order of their texts. Texts are in the order of
the dates they start with. They are in the order of the instants as well where the separator and
the offset are the same, unless fractions of different length come before a letter. -/

namespace ExportWatch.Timestamp

open Calendar Text

/-- The digits behind the point. -/
def fractionValue : List Char → ℚ
  | [] => 0
  | head :: tail => (digitValue head + fractionValue tail) / 10

example : fractionValue "25".toList = 1 / 4 := by decide +kernel

theorem fractionValue_nonneg (digits : List Char) : 0 ≤ fractionValue digits := by
  induction digits with
  | nil => exact le_refl 0
  | cons head tail induction =>
      exact div_nonneg (add_nonneg (Nat.cast_nonneg _) induction) (by norm_num)

theorem fractionValue_lt_one {digits : List Char} (all : ∀ digit ∈ digits, isDigit digit = true) :
    fractionValue digits < 1 := by
  induction digits with
  | nil => exact zero_lt_one
  | cons head tail induction =>
      have rest := induction fun digit member => all digit (List.mem_cons_of_mem _ member)
      have digit : (digitValue head : ℚ) ≤ 9 := by
        exact_mod_cast digitValue_le (all head List.mem_cons_self)
      rw [fractionValue]
      linarith

namespace Written

variable {first second : Written}

/-- The days from the start of year 0 on. -/
def dayNumber (written : Written) : Nat :=
  daysBefore (digitsValue written.year) (digitsValue written.month) + digitsValue written.day

/-- The minutes from the start of year 0 on, in universal time. -/
def minutes (written : Written) : Int :=
  written.dayNumber * 1440 + written.minutesOfDay

def seconds (written : Written) : ℚ :=
  digitsValue written.second + fractionValue written.fraction

/-- A sixtieth second comes after all others of its minute. -/
def instant (written : Written) : Int ×ₗ ℚ :=
  toLex (written.minutes, written.seconds)

/-! Texts in the order of the dates. -/

section Dates

variable (firstValid : first.Valid) (secondValid : second.Valid)
  (le : first.dayNumber ≤ second.dayNumber)
include firstValid secondValid le

theorem year_le : digitsValue first.year ≤ digitsValue second.year := by
  rcases firstValid.date_le with ⟨-, -, day, -⟩
  rcases secondValid.date_le with ⟨month, month_le, -, -, day_le⟩
  rw [dayNumber, dayNumber] at le
  by_contra less
  have later := daysBefore_add_le_of_year (digitsValue first.month) month month_le
    (Nat.lt_of_not_le less)
  omega

theorem month_le (sameYear : first.year = second.year) :
    digitsValue first.month ≤ digitsValue second.month := by
  rcases firstValid.date_le with ⟨-, month_le, day, -⟩
  rcases secondValid.date_le with ⟨month, -, -, -, day_le⟩
  rw [dayNumber, dayNumber, sameYear] at le
  by_contra less
  have later := daysBefore_add_le_of_month (digitsValue second.year) month month_le
    (Nat.lt_of_not_le less)
  omega

/-- The dates decide, and on the same date what follows. -/
theorem text_lt (later : first.dayNumber = second.dayNumber →
      first.separator :: first.clockText < second.separator :: second.clockText) :
    first.text < second.text := by
  apply firstValid.year.append_lt secondValid.year (year_le firstValid secondValid le)
  intro sameYear
  apply List.cons_lt_cons_self.mpr
  apply firstValid.month.append_lt secondValid.month
    (month_le firstValid secondValid le sameYear)
  intro sameMonth
  apply List.cons_lt_cons_self.mpr
  have day_le : digitsValue first.day ≤ digitsValue second.day := by
    rw [dayNumber, dayNumber, sameYear, sameMonth] at le
    omega
  apply firstValid.day.append_lt secondValid.day day_le
  intro sameDay
  exact later (by rw [dayNumber, dayNumber, sameYear, sameMonth, sameDay])

end Dates

/-- The texts are no more than three days out of order. -/
theorem minutes_lt_of_text_le (firstValid : first.Valid) (secondValid : second.Valid)
    (le : second.text ≤ first.text) : second.minutes < first.minutes + 3 * 1440 := by
  have dates : second.dayNumber ≤ first.dayNumber := by
    by_contra later
    have less : first.text < second.text := text_lt firstValid secondValid (by omega) (by omega)
    exact absurd less (not_lt.mpr le)
  have firstZone := firstValid.zone.minutes_lt
  have secondZone := secondValid.zone.minutes_lt
  have firstClock := firstValid.clock_lt
  have secondClock := secondValid.clock_lt
  rw [minutes, minutes, minutesOfDay, minutesOfDay]
  omega

end Written

/-! Texts in the order of the instants. -/

/-- A text that goes on with the digits of a larger fraction is larger. What follows must be smaller
than any digit where one of the fractions can end before the other. -/
theorem fraction_append_lt {first second rest : List Char}
    (firstAll : ∀ digit ∈ first, isDigit digit = true)
    (secondAll : ∀ digit ∈ second, isDigit digit = true)
    (even : first.length = second.length ∨ ∃ head tail, rest = head :: tail ∧ head < '.')
    (less : fractionValue first < fractionValue second) : first ++ rest < second ++ rest := by
  induction first generalizing second with
  | nil =>
      cases second with
      | nil => exact absurd less (lt_irrefl _)
      | cons digit others =>
          rcases even with same | ⟨head, tail, rfl, small⟩
          · cases same
          · apply List.Lex.rel
            have point : '.' < digit :=
              lt_of_lt_of_le (by decide) (isDigit_iff.mp (secondAll digit List.mem_cons_self)).1
            exact small.trans point
  | cons head tail induction =>
      cases second with
      | nil => exact absurd less (not_lt.mpr (fractionValue_nonneg _))
      | cons otherHead otherTail =>
          have tailAll : ∀ digit ∈ tail, isDigit digit = true := fun digit member =>
            firstAll digit (List.mem_cons_of_mem _ member)
          have otherTailAll : ∀ digit ∈ otherTail, isDigit digit = true := fun digit member =>
            secondAll digit (List.mem_cons_of_mem _ member)
          rw [fractionValue, fractionValue] at less
          rcases lt_trichotomy head otherHead with smaller | rfl | larger
          · exact List.Lex.rel smaller
          · apply List.cons_lt_cons_self.mpr
            apply induction tailAll otherTailAll
            · rcases even with same | ends
              · exact .inl (Nat.succ_inj.mp same)
              · exact .inr ends
            · linarith
          · have digits := digitValue_lt (secondAll otherHead List.mem_cons_self) larger
            have gap : (digitValue otherHead : ℚ) + 1 ≤ digitValue head := by exact_mod_cast digits
            have small := fractionValue_lt_one otherTailAll
            have positive := fractionValue_nonneg tail
            linarith

theorem fractionText_append_lt {first second rest : List Char}
    (firstAll : ∀ digit ∈ first, isDigit digit = true)
    (secondAll : ∀ digit ∈ second, isDigit digit = true)
    (even : first.length = second.length ∨ ∃ head tail, rest = head :: tail ∧ head < '.')
    (less : fractionValue first < fractionValue second) :
    fractionText first ++ rest < fractionText second ++ rest := by
  cases second with
  | nil => exact absurd less (not_lt.mpr (fractionValue_nonneg _))
  | cons digit others =>
      cases first with
      | nil =>
          rcases even with same | ⟨head, tail, rfl, small⟩
          · cases same
          · exact List.Lex.rel small
      | cons head tail =>
          exact List.cons_lt_cons_self.mpr (fraction_append_lt firstAll secondAll even less)

-- A letter is larger than the point and the digits, so it puts the longer fraction first.
example : fractionText ['5'] ++ ['Z'] < fractionText [] ++ ['Z'] := by decide

def Zone.IsOffset : Zone → Prop
  | .universal _ => False
  | .offset _ _ _ => True

theorem Zone.IsOffset.text_eq {zone : Zone} (isOffset : zone.IsOffset) (valid : zone.Valid) :
    ∃ head tail, zone.text = head :: tail ∧ head < '.' := by
  cases valid with
  | universal mark => exact isOffset.elim
  | offset sign =>
      refine ⟨_, _, rfl, ?_⟩
      rcases sign with rfl | rfl <;> decide

namespace Written

variable {first second : Written}

/-- Timestamps written in the same way. -/
structure Alike (first second : Written) : Prop where
  separator : first.separator = second.separator
  zone : first.zone = second.zone
  fraction : first.fraction.length = second.fraction.length ∨ first.zone.IsOffset

theorem instant_lt_iff :
    first.instant < second.instant ↔ first.minutes < second.minutes ∨
      first.minutes = second.minutes ∧ first.seconds < second.seconds :=
  Prod.Lex.toLex_lt_toLex

/-- Whole seconds count more than fractions. -/
theorem second_le (secondValid : second.Valid) (less : first.seconds < second.seconds) :
    digitsValue first.second ≤ digitsValue second.second := by
  have positive := fractionValue_nonneg first.fraction
  have small := fractionValue_lt_one secondValid.fraction
  rw [seconds, seconds] at less
  have bounded : (digitsValue first.second : ℚ) < digitsValue second.second + 1 := by linarith
  exact Nat.le_of_lt_succ (by exact_mod_cast bounded)

section Clocks

variable (firstValid : first.Valid) (secondValid : second.Valid) (alike : first.Alike second)
  (less : first.instant < second.instant)
include firstValid secondValid alike less

theorem dayNumber_le : first.dayNumber ≤ second.dayNumber := by
  have firstClock := firstValid.clock_lt
  have secondClock := secondValid.clock_lt
  have ordered := instant_lt_iff.mp less
  rw [minutes, minutes, minutesOfDay, minutesOfDay, alike.zone] at ordered
  omega

theorem clockText_lt (sameDay : first.dayNumber = second.dayNumber) :
    first.clockText < second.clockText := by
  have firstMinute := firstValid.minute_le
  have secondMinute := secondValid.minute_le
  have ordered := instant_lt_iff.mp less
  rw [minutes, minutes, minutesOfDay, minutesOfDay, alike.zone, sameDay] at ordered
  apply firstValid.hour.append_lt secondValid.hour (by omega)
  intro sameHour
  apply List.cons_lt_cons_self.mpr
  rw [sameHour] at ordered
  apply firstValid.minute.append_lt secondValid.minute (by omega)
  intro sameMinute
  apply List.cons_lt_cons_self.mpr
  rw [sameMinute] at ordered
  have secondsLess : first.seconds < second.seconds :=
    ordered.elim (absurd · (lt_irrefl _)) And.right
  apply firstValid.second.append_lt secondValid.second (second_le secondValid secondsLess)
  intro sameSecond
  rw [alike.zone]
  apply fractionText_append_lt firstValid.fraction secondValid.fraction
  · rcases alike.fraction with same | isOffset
    · exact .inl same
    · exact .inr (alike.zone ▸ isOffset.text_eq firstValid.zone)
  · rw [seconds, seconds, sameSecond] at secondsLess
    linarith

/-- Of timestamps that are written in the same way the later one has the larger text. -/
theorem text_lt_of_instant_lt : first.text < second.text := by
  apply text_lt firstValid secondValid (dayNumber_le firstValid secondValid alike less)
  intro sameDay
  rw [alike.separator]
  apply List.cons_lt_cons_self.mpr
  exact clockText_lt firstValid secondValid alike less sameDay

end Clocks

end Written

end ExportWatch.Timestamp
