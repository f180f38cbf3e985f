import ExportWatch.Time.Calendar
import Mathlib.Algebra.Order.BigOperators.Group.List
import Mathlib.Algebra.Order.Ring.Nat

/-! Days counted through the calendar. The later of two dates has the larger number. -/

namespace ExportWatch

namespace Calendar

variable {year otherYear : Nat} {month otherMonth : Nat}

theorem monthLength_le {year : Int} {length : Nat} (member : length ∈ monthLengths year) :
    length ≤ 31 := by
  have february : (if isLeap year then 29 else 28) ≤ 31 := by split <;> decide
  simp only [monthLengths, List.mem_cons, List.not_mem_nil, or_false] at member
  omega

theorem daysIn_eq (year : Int) (positive : 1 ≤ month) (small : month ≤ 12) :
    ∃ inside : month - 1 < (monthLengths year).length,
      daysIn year month = (monthLengths year)[month - 1] := by
  have inside : month - 1 < (monthLengths year).length := by
    change month - 1 < 12
    omega
  refine ⟨inside, ?_⟩
  rw [daysIn, List.getD_eq_getElem?_getD, List.getElem?_eq_getElem inside, Option.getD_some]

theorem daysIn_le (year : Int) (positive : 1 ≤ month) (small : month ≤ 12) :
    daysIn year month ≤ 31 := by
  rcases daysIn_eq year positive small with ⟨inside, same⟩
  rw [same]
  exact monthLength_le (List.getElem_mem inside)

/-- The days from the start of year 0 to the start of a month. -/
def daysBefore (year month : Nat) : Nat :=
  ((List.range year).map fun earlier : Nat => (monthLengths earlier).sum).sum +
    ((monthLengths year).take (month - 1)).sum

theorem sum_take_add_daysIn (year : Int) (positive : 1 ≤ month) (small : month ≤ 12) :
    ((monthLengths year).take (month - 1)).sum + daysIn year month =
      ((monthLengths year).take month).sum := by
  rcases daysIn_eq year positive small with ⟨inside, same⟩
  rw [same, ← List.sum_take_succ _ _ inside, Nat.sub_add_cancel positive]

theorem daysBefore_add_le_of_month (year : Nat) (positive : 1 ≤ month) (small : otherMonth ≤ 12)
    (less : month < otherMonth) :
    daysBefore year month + daysIn year month ≤ daysBefore year otherMonth := by
  rw [daysBefore, daysBefore, Nat.add_assoc, sum_take_add_daysIn _ positive (by omega)]
  apply Nat.add_le_add_left
  apply List.Sublist.sum_le_sum
  · exact List.take_sublist_take_left (by omega)
  · simp

theorem daysBefore_add_le_of_year (otherMonth : Nat) (positive : 1 ≤ month) (small : month ≤ 12)
    (less : year < otherYear) :
    daysBefore year month + daysIn year month ≤ daysBefore otherYear otherMonth := by
  have within : ((monthLengths year).take month).sum ≤ (monthLengths year).sum := by
    apply List.Sublist.sum_le_sum
    · exact List.take_sublist _ _
    · simp
  have years : ((List.range (year + 1)).map fun earlier : Nat => (monthLengths earlier).sum).sum ≤
      ((List.range otherYear).map fun earlier : Nat => (monthLengths earlier).sum).sum := by
    apply List.Sublist.sum_le_sum
    · exact (List.range_sublist.mpr less).map _
    · simp
  rw [List.range_succ, List.map_append, List.sum_append, List.map_singleton,
    List.sum_singleton] at years
  rw [daysBefore, Nat.add_assoc, sum_take_add_daysIn _ positive small, daysBefore]
  omega

end Calendar

open Calendar

theorem Date.isValid_iff {date : Date} :
    date.IsValid = true ↔ 1 ≤ date.month ∧ date.month ≤ 12 ∧ 1 ≤ date.day ∧
      date.day ≤ daysIn date.year date.month := by
  simp [Date.IsValid, and_assoc]

end ExportWatch
