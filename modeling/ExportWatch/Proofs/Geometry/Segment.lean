import ExportWatch.Geometry.Segment
import ExportWatch.Proofs.Geometry.Extent
import Mathlib.Tactic.FieldSimp
import Mathlib.Tactic.Linarith
import Mathlib.Tactic.Ring
import Mathlib.Data.Rat.Lemmas
import Mathlib.Algebra.Order.Field.Rat
import Mathlib.Algebra.Order.Field.Basic

/-! Segments over exact fractions. The tests of signs say what they mean: a point
touches a segment when it is on it, and segments meet when they share a point. -/

namespace ExportWatch

/-- A number is between two others when it is some part of the way between them. -/
theorem between_iff {first second value : ℚ} :
    (min first second ≤ value ∧ value ≤ max first second) ↔
      ∃ part, 0 ≤ part ∧ part ≤ 1 ∧ first + part * (second - first) = value := by
  constructor
  · rintro ⟨least, greatest⟩
    rcases lt_trichotomy first second with less | rfl | greater
    · have width : 0 < second - first := sub_pos.mpr less
      rw [min_eq_left less.le] at least
      rw [max_eq_right less.le] at greatest
      refine ⟨(value - first) / (second - first), ?_, ?_, ?_⟩
      · exact div_nonneg (sub_nonneg.mpr least) width.le
      · exact (div_le_one width).mpr (sub_le_sub_right greatest first)
      · rw [div_mul_cancel₀ _ width.ne']
        ring
    · rw [min_self] at least
      rw [max_self] at greatest
      exact ⟨0, le_rfl, zero_le_one, by linarith⟩
    · have width : 0 < first - second := sub_pos.mpr greater
      rw [min_eq_right greater.le] at least
      rw [max_eq_left greater.le] at greatest
      refine ⟨(first - value) / (first - second), ?_, ?_, ?_⟩
      · exact div_nonneg (sub_nonneg.mpr greatest) width.le
      · exact (div_le_one width).mpr (sub_le_sub_left least first)
      · have back : second - first = -(first - second) := by ring
        rw [back, mul_neg, div_mul_cancel₀ _ width.ne']
        ring
  · rintro ⟨part, nonnegative, atMostOne, rfl⟩
    rcases le_total first second with le | le
    · rw [min_eq_left le, max_eq_right le]
      constructor <;> nlinarith
    · rw [min_eq_right le, max_eq_left le]
      constructor <;> nlinarith

namespace Segment

/-- The point that is some part of the way along the segment. -/
def along (segment : Segment ℚ) (part : ℚ) : Position ℚ where
  lon := segment.start.lon + part * (segment.finish.lon - segment.start.lon)
  lat := segment.start.lat + part * (segment.finish.lat - segment.start.lat)

/-- The points of a segment, its ends among them. -/
def Covers (segment : Segment ℚ) (point : Position ℚ) : Prop :=
  ∃ part, 0 ≤ part ∧ part ≤ 1 ∧ segment.along part = point

variable (segment other : Segment ℚ) (point : Position ℚ)

@[simp] theorem along_zero : segment.along 0 = segment.start := by
  simp [along]

@[simp] theorem along_one : segment.along 1 = segment.finish := by
  simp [along]

theorem covers_along {part : ℚ} (nonnegative : 0 ≤ part) (atMostOne : part ≤ 1) :
    segment.Covers (segment.along part) :=
  ⟨part, nonnegative, atMostOne, rfl⟩

theorem covers_start : segment.Covers segment.start :=
  ⟨0, le_rfl, zero_le_one, along_zero segment⟩

theorem covers_finish : segment.Covers segment.finish :=
  ⟨1, zero_le_one, le_rfl, along_one segment⟩

theorem isZero_iff (value : ℚ) : isZero value = true ↔ value = 0 := by
  simp only [isZero, Bool.and_eq_true, decide_eq_true_eq]
  exact le_antisymm_iff.symm

/-- The side on which a point is changes evenly along another segment. -/
theorem orientation_along (part : ℚ) :
    other.orientation (segment.along part) =
      (1 - part) * other.orientation segment.start +
        part * other.orientation segment.finish := by
  simp only [orientation, along]
  ring

theorem orientation_start : segment.orientation segment.start = 0 := by
  simp only [orientation]
  ring

theorem orientation_finish : segment.orientation segment.finish = 0 := by
  simp only [orientation]
  ring

variable {segment other point}

theorem Covers.orientation (covered : segment.Covers point) : segment.orientation point = 0 := by
  rcases covered with ⟨part, -, -, rfl⟩
  rw [orientation_along, orientation_start, orientation_finish]
  ring

theorem spans_iff :
    segment.spans point = true ↔
      (min segment.start.lon segment.finish.lon ≤ point.lon ∧
        point.lon ≤ max segment.start.lon segment.finish.lon) ∧
      min segment.start.lat segment.finish.lat ≤ point.lat ∧
        point.lat ≤ max segment.start.lat segment.finish.lat := by
  simp [spans, lesser_eq_min, greater_eq_max, and_assoc]

theorem touches_iff : segment.touches point = true ↔ segment.Covers point := by
  rw [touches, Bool.and_eq_true, isZero_iff, spans_iff, between_iff, between_iff]
  constructor
  · rintro ⟨onLine, ⟨part, nonnegative, atMostOne, lonEq⟩,
      ⟨other, otherNonnegative, otherAtMostOne, latEq⟩⟩
    rw [orientation, ← lonEq] at onLine
    by_cases width : segment.finish.lon - segment.start.lon = 0
    · refine ⟨other, otherNonnegative, otherAtMostOne, ?_⟩
      rw [width, mul_zero] at lonEq
      simp only [along, width, mul_zero, lonEq, latEq]
    · refine ⟨part, nonnegative, atMostOne, ?_⟩
      have height : part * (segment.finish.lat - segment.start.lat) =
          point.lat - segment.start.lat := by
        apply mul_left_cancel₀ width
        linarith
      simp only [along, lonEq, height]
      rw [add_sub_cancel]
  · intro covered
    refine ⟨covered.orientation, ?_⟩
    rcases covered with ⟨part, nonnegative, atMostOne, rfl⟩
    exact ⟨⟨part, nonnegative, atMostOne, rfl⟩, ⟨part, nonnegative, atMostOne, rfl⟩⟩

theorem opposite_iff {left right : ℚ} :
    opposite left right = true ↔ (0 < left ∧ right < 0) ∨ (left < 0 ∧ 0 < right) := by
  simp only [opposite, Bool.or_eq_true, Bool.and_eq_true, decide_eq_true_eq]

theorem part_of_opposite {left right : ℚ} (sides : opposite left right = true) :
    0 ≤ left / (left - right) ∧ left / (left - right) ≤ 1 ∧ left - right ≠ 0 := by
  rcases opposite_iff.mp sides with ⟨positive, negative⟩ | ⟨negative, positive⟩
  · have width : 0 < left - right := by linarith
    exact ⟨div_nonneg positive.le width.le, (div_le_one width).mpr (by linarith), width.ne'⟩
  · have width : left - right < 0 := by linarith
    exact ⟨div_nonneg_of_nonpos negative.le width.le, (div_le_one_of_neg width).mpr (by linarith),
      width.ne⟩

/-- Where two segments cross, each is cut in the ratio in which its ends are away
from the other. -/
theorem common_of_crosses (crossing : segment.crosses other = true) :
    ∃ point, segment.Covers point ∧ other.Covers point := by
  rw [crosses, Bool.and_eq_true] at crossing
  rcases crossing with ⟨ends, otherEnds⟩
  rcases part_of_opposite ends with ⟨nonnegative, atMostOne, nonzero⟩
  rcases part_of_opposite otherEnds with ⟨otherNonnegative, otherAtMostOne, otherNonzero⟩
  refine ⟨_, segment.covers_along nonnegative atMostOne,
    _, otherNonnegative, otherAtMostOne, ?_⟩
  have opposed : segment.orientation other.start - segment.orientation other.finish =
      -(other.orientation segment.start - other.orientation segment.finish) := by
    simp only [orientation]
    ring
  rw [opposed]
  simp only [along, Position.mk.injEq]
  constructor
  · field_simp
    simp only [orientation]
    ring
  · field_simp
    simp only [orientation]
    ring

/-! Two segments with a common point on one line: the line is told by parts of the
segment, and the other segment reaches from one part to another. -/

/-- The vector from end to end of the second segment is a multiple of the first's. -/
structure Parallel (segment other : Segment ℚ) (factor : ℚ) : Prop where
  lon : other.finish.lon - other.start.lon = factor * (segment.finish.lon - segment.start.lon)
  lat : other.finish.lat - other.start.lat = factor * (segment.finish.lat - segment.start.lat)

theorem parallel_of_collinear (long : segment.start ≠ segment.finish)
    (startOn : segment.orientation other.start = 0)
    (finishOn : segment.orientation other.finish = 0) :
    ∃ factor, Parallel segment other factor := by
  have even : (segment.finish.lon - segment.start.lon) * (other.finish.lat - other.start.lat) =
      (segment.finish.lat - segment.start.lat) * (other.finish.lon - other.start.lon) := by
    simp only [orientation] at startOn finishOn
    linarith
  by_cases width : segment.finish.lon - segment.start.lon = 0
  · have height : segment.finish.lat - segment.start.lat ≠ 0 := by
      intro flat
      apply long
      cases sameLon : segment.start
      cases sameFinish : segment.finish
      simp only [sameLon, sameFinish] at width flat
      rw [sub_eq_zero.mp width, sub_eq_zero.mp flat]
    refine ⟨(other.finish.lat - other.start.lat) / (segment.finish.lat - segment.start.lat),
      ?_, ?_⟩
    · rw [width, mul_zero]
      rw [width, zero_mul] at even
      exact (mul_eq_zero.mp even.symm).resolve_left height
    · rw [div_mul_cancel₀ _ height]
  · refine ⟨(other.finish.lon - other.start.lon) / (segment.finish.lon - segment.start.lon),
      ?_, ?_⟩
    · rw [div_mul_cancel₀ _ width]
    · rw [div_mul_eq_mul_div, eq_div_iff width]
      linarith

theorem Parallel.along_add {factor part otherPart : ℚ} (parallel : Parallel segment other factor)
    (common : segment.along part = other.along otherPart) (offset : ℚ) :
    segment.along (part + offset * factor) = other.along (otherPart + offset) := by
  simp only [along, Position.mk.injEq, parallel.lon, parallel.lat] at common ⊢
  constructor <;> linarith

/-- From a common point both ways along the line, the end of one of the segments is
met before the end of the other. -/
theorem Parallel.end_covered {factor part otherPart : ℚ}
    (parallel : Parallel segment other factor)
    (inside : 0 ≤ part ∧ part ≤ 1) (otherInside : 0 ≤ otherPart ∧ otherPart ≤ 1)
    (common : segment.along part = other.along otherPart) :
    other.Covers segment.start ∨ segment.Covers other.start ∨ segment.Covers other.finish := by
  have otherStart : segment.along (part - otherPart * factor) = other.start := by
    have place := parallel.along_add common (-otherPart)
    rw [add_neg_cancel, along_zero] at place
    rw [← place, sub_eq_add_neg, neg_mul]
  have otherFinish : segment.along (part + (1 - otherPart) * factor) = other.finish := by
    have place := parallel.along_add common (1 - otherPart)
    rw [add_sub_cancel, along_one] at place
    exact place
  have start (nonzero : factor ≠ 0) :
      other.along (otherPart - part / factor) = segment.start := by
    have place := parallel.along_add common (-(part / factor))
    rw [neg_mul, div_mul_cancel₀ _ nonzero, add_neg_cancel, along_zero] at place
    rw [place, sub_eq_add_neg]
  rcases lt_or_ge 0 factor with positive | notPositive
  · by_cases reaches : part < otherPart * factor
    · have least : 0 ≤ part / factor := div_nonneg inside.1 positive.le
      have greatest : part / factor < otherPart := (div_lt_iff₀ positive).mpr reaches
      left
      exact ⟨_, by linarith, by linarith, start positive.ne'⟩
    · have backwards : 0 ≤ otherPart * factor := mul_nonneg otherInside.1 positive.le
      right; left
      exact ⟨_, by linarith, by linarith, otherStart⟩
  · have shorter : (1 - otherPart) * factor ≤ 0 :=
      mul_nonpos_of_nonneg_of_nonpos (by linarith) notPositive
    by_cases reaches : part + (1 - otherPart) * factor < 0
    · have nonzero : factor ≠ 0 := by
        rintro rfl
        linarith
      have negative : factor < 0 := lt_of_le_of_ne notPositive nonzero
      have least : part / factor ≤ 0 := div_nonpos_of_nonneg_of_nonpos inside.1 notPositive
      have greatest : -(1 - otherPart) < part / factor := by
        rw [lt_div_iff_of_neg negative]
        linarith
      left
      exact ⟨_, by linarith, by linarith, start nonzero⟩
    · right; right
      exact ⟨_, by linarith, by linarith, otherFinish⟩

theorem end_covered_of_collinear {part otherPart : ℚ}
    (inside : 0 ≤ part ∧ part ≤ 1) (otherInside : 0 ≤ otherPart ∧ otherPart ≤ 1)
    (common : segment.along part = other.along otherPart)
    (startOn : segment.orientation other.start = 0)
    (finishOn : segment.orientation other.finish = 0) :
    other.Covers segment.start ∨ segment.Covers other.start ∨ segment.Covers other.finish := by
  by_cases long : segment.start = segment.finish
  · left
    refine ⟨otherPart, otherInside.1, otherInside.2, ?_⟩
    rw [← common]
    simp [along, long]
  · rcases parallel_of_collinear long startOn finishOn with ⟨factor, parallel⟩
    exact parallel.end_covered inside otherInside common

theorem meets_of_end_covered
    (covered : other.Covers segment.start ∨ other.Covers segment.finish ∨
      segment.Covers other.start ∨ segment.Covers other.finish) :
    segment.meets other = true := by
  rw [meets]
  rcases covered with start | finish | otherStart | otherFinish
  · simp [touches_iff.mpr start]
  · simp [touches_iff.mpr finish]
  · simp [touches_iff.mpr otherStart]
  · simp [touches_iff.mpr otherFinish]

/-- A common point that is no end of the segment has its ends on both sides, or on
the line. -/
theorem sides_of_common {part : ℚ} (inside : 0 < part ∧ part < 1)
    (common : other.orientation (segment.along part) = 0) :
    opposite (other.orientation segment.start) (other.orientation segment.finish) = true ∨
      (other.orientation segment.start = 0 ∧ other.orientation segment.finish = 0) := by
  rw [orientation_along] at common
  have rest : 0 < 1 - part := by linarith
  rw [opposite_iff]
  rcases lt_trichotomy (other.orientation segment.start) 0 with negative | zero | positive
  · have lost := mul_neg_of_pos_of_neg rest negative
    left; right
    exact ⟨negative, pos_of_mul_pos_right (by linarith) inside.1.le⟩
  · rw [zero, mul_zero, zero_add] at common
    right
    exact ⟨zero, (mul_eq_zero.mp common).resolve_left inside.1.ne'⟩
  · have gained := mul_pos rest positive
    left; left
    refine ⟨positive, ?_⟩
    by_contra notNegative
    have kept := mul_nonneg inside.1.le (not_lt.mp notNegative)
    linarith

theorem meets_of_common {part otherPart : ℚ}
    (inside : 0 ≤ part ∧ part ≤ 1) (otherInside : 0 ≤ otherPart ∧ otherPart ≤ 1)
    (common : segment.along part = other.along otherPart) :
    segment.meets other = true := by
  have covered : segment.Covers (segment.along part) := segment.covers_along inside.1 inside.2
  have otherCovered : other.Covers (segment.along part) := ⟨otherPart, otherInside.1,
    otherInside.2, common.symm⟩
  rcases inside.1.eq_or_lt with rfl | afterStart
  · rw [along_zero] at otherCovered
    exact meets_of_end_covered (.inl otherCovered)
  rcases inside.2.eq_or_lt with rfl | beforeFinish
  · rw [along_one] at otherCovered
    exact meets_of_end_covered (.inr (.inl otherCovered))
  rcases otherInside.1.eq_or_lt with rfl | afterOtherStart
  · rw [common, along_zero] at covered
    exact meets_of_end_covered (.inr (.inr (.inl covered)))
  rcases otherInside.2.eq_or_lt with rfl | beforeOtherFinish
  · rw [common, along_one] at covered
    exact meets_of_end_covered (.inr (.inr (.inr covered)))
  -- The common point is inside both segments.
  rcases sides_of_common ⟨afterOtherStart, beforeOtherFinish⟩
    (common ▸ covered.orientation) with otherSides | ⟨otherStartOn, otherFinishOn⟩
  · rcases sides_of_common ⟨afterStart, beforeFinish⟩ otherCovered.orientation with
      sides | ⟨startOn, finishOn⟩
    · simp [meets, crosses, sides, otherSides]
    · rcases end_covered_of_collinear otherInside inside common.symm startOn finishOn with
        ends | ends | ends
      · exact meets_of_end_covered (.inr (.inr (.inl ends)))
      · exact meets_of_end_covered (.inl ends)
      · exact meets_of_end_covered (.inr (.inl ends))
  · rcases end_covered_of_collinear inside otherInside common otherStartOn otherFinishOn with
      ends | ends | ends
    · exact meets_of_end_covered (.inl ends)
    · exact meets_of_end_covered (.inr (.inr (.inl ends)))
    · exact meets_of_end_covered (.inr (.inr (.inr ends)))

theorem meets_iff :
    segment.meets other = true ↔ ∃ point, segment.Covers point ∧ other.Covers point := by
  constructor
  · intro meeting
    simp only [meets, Bool.or_eq_true, touches_iff] at meeting
    rcases meeting with (((crossing | start) | finish) | otherStart) | otherFinish
    · exact common_of_crosses crossing
    · exact ⟨_, segment.covers_start, start⟩
    · exact ⟨_, segment.covers_finish, finish⟩
    · exact ⟨_, otherStart, other.covers_start⟩
    · exact ⟨_, otherFinish, other.covers_finish⟩
  · rintro ⟨_, ⟨part, nonnegative, atMostOne, rfl⟩,
      ⟨otherPart, otherNonnegative, otherAtMostOne, same⟩⟩
    exact meets_of_common ⟨nonnegative, atMostOne⟩ ⟨otherNonnegative, otherAtMostOne⟩ same.symm

end Segment

end ExportWatch
