import ExportWatch.Proofs.Decimal.Order
import ExportWatch.Proofs.Program.Act

/-! What the verdict on an extent depends on: whether a region touches the extent,
and whether the limit is below its area. A limit or an area that is no number is
below nothing and has nothing below it, so the extent passes for one that keeps the
limit. -/

namespace ExportWatch

namespace Verdict

variable {extent : Extent Float} {regions : List (Region Float)} {limit : Float}

def Touched (extent : Extent Float) (regions : List (Region Float)) : Prop :=
  ∃ region ∈ regions, region.intersects extent = true

/-- In square kilometres. -/
def areaOf (extent : Extent Float) : Float :=
  Earth.sphere.extentSquareKilometres extent

/-- An extent that touches a region is valid when its area is at most the limit, and
too large otherwise. -/
structure KeepsLimit (extent : Extent Float) (regions : List (Region Float)) (limit : Float) :
    Prop where
  valid : ofExtent extent regions limit = .valid (areaOf extent) ↔
    Touched extent regions ∧ areaOf extent ≤ limit
  tooLarge : ofExtent extent regions limit = .tooLarge (areaOf extent) limit ↔
    Touched extent regions ∧ ¬ areaOf extent ≤ limit
  outside : ofExtent extent regions limit = .outsideRegion ↔ ¬ Touched extent regions

theorem any_intersects_iff :
    (regions.any (·.intersects extent)) = true ↔ Touched extent regions :=
  List.any_eq_true

theorem ofExtent_of_touched (touched : Touched extent regions) :
    ofExtent extent regions limit = ofArea (areaOf extent) limit := by
  rw [ofExtent, if_pos (any_intersects_iff.mpr touched), areaOf]

theorem ofExtent_of_not_touched (free : ¬ Touched extent regions) :
    ofExtent extent regions limit = .outsideRegion := by
  rw [ofExtent, if_neg (mt any_intersects_iff.mp free)]

theorem ofExtent_eq_valid_iff :
    ofExtent extent regions limit = .valid (areaOf extent) ↔
      Touched extent regions ∧ ¬ limit < areaOf extent := by
  by_cases touched : Touched extent regions
  · rw [ofExtent_of_touched touched, ofArea]
    split <;> simp_all
  · simp [ofExtent_of_not_touched touched, touched]

theorem ofExtent_eq_tooLarge_iff :
    ofExtent extent regions limit = .tooLarge (areaOf extent) limit ↔
      Touched extent regions ∧ limit < areaOf extent := by
  by_cases touched : Touched extent regions
  · rw [ofExtent_of_touched touched, ofArea]
    split <;> simp_all
  · simp [ofExtent_of_not_touched touched, touched]

theorem ofExtent_eq_outsideRegion_iff :
    ofExtent extent regions limit = .outsideRegion ↔ ¬ Touched extent regions := by
  by_cases touched : Touched extent regions
  · rw [ofExtent_of_touched touched, ofArea]
    split <;> simp_all
  · simp [ofExtent_of_not_touched touched, touched]

theorem isValid_ofExtent_iff :
    (ofExtent extent regions limit).isValid = true ↔
      Touched extent regions ∧ ¬ limit < areaOf extent := by
  by_cases touched : Touched extent regions
  · rw [ofExtent_of_touched touched, ofArea]
    split <;> simp_all [isValid]
  · simp [ofExtent_of_not_touched touched, touched, isValid]

/-- The law of the limit needs numbers, once a region is touched. -/
theorem keepsLimit_iff :
    KeepsLimit extent regions limit ↔
      (Touched extent regions →
        (areaOf extent).isNaN = false ∧ limit.isNaN = false) := by
  rw [← Decimal.le_iff_not_lt_iff]
  constructor
  · intro keeps touched
    have valid := keeps.valid
    rw [ofExtent_eq_valid_iff, and_congr_right_iff] at valid
    exact (valid touched).symm
  · intro comparable
    refine ⟨?_, ?_, ofExtent_eq_outsideRegion_iff⟩
    · rw [ofExtent_eq_valid_iff, and_congr_right_iff]
      exact fun touched => (comparable touched).symm
    · rw [ofExtent_eq_tooLarge_iff, and_congr_right_iff]
      exact fun touched => by rw [comparable touched, Decidable.not_not]

end Verdict

namespace Act

variable {State : Type} {surroundings : Surroundings State} {invocation : Invocation}
variable {box : Option (Extent Float)} {path : Option Path} {limit : Float}
variable {scene : Scene State}

/-- The check of an extent ends well only for a valid one. -/
theorem valid_of_validate
    (ended : ((validate surroundings invocation box path limit).perform scene).1 = .ok 0) :
    ∃ extent regions, box = some extent ∧
      ((regionsFor surroundings invocation.config path).perform scene).1 = .ok regions ∧
      (Verdict.ofExtent extent regions limit).isValid = true := by
  cases box with
  | none =>
      rcases parts_of_ok ended with ⟨regions, after, -, ended⟩
      rcases parts_of_ok ended with ⟨_, shown, -, ended⟩
      cases ended
  | some extent =>
      rcases parts_of_ok ended with ⟨regions, after, loaded, ended⟩
      rcases parts_of_ok ended with ⟨_, shown, -, ended⟩
      refine ⟨extent, regions, rfl, by rw [loaded], ?_⟩
      cases valid : (Verdict.ofExtent extent regions limit).isValid with
      | true => rfl
      | false =>
          change Except.ok (if (Verdict.ofExtent extent regions limit).isValid then 0 else 2) =
            Except.ok 0 at ended
          rw [valid] at ended
          cases ended

end Act

namespace Verdict

/-- Valid extents, and no others, keep the limit, unless the limit or the area of an
extent that touches a region is no number. Of the regions it only counts whether one
touches the extent. -/
theorem verdict_by_area (extent : Extent Float) (regions : List (Region Float)) (limit : Float) :
    (ofExtent extent regions limit = .valid (areaOf extent) ↔
        Touched extent regions ∧ ¬ limit < areaOf extent) ∧
      (ofExtent extent regions limit = .tooLarge (areaOf extent) limit ↔
        Touched extent regions ∧ limit < areaOf extent) ∧
      (ofExtent extent regions limit = .outsideRegion ↔ ¬ Touched extent regions) ∧
      (KeepsLimit extent regions limit ↔
        (Touched extent regions → (areaOf extent).isNaN = false ∧ limit.isNaN = false)) ∧
      (∀ others, (Touched extent others ↔ Touched extent regions) →
        ofExtent extent others limit = ofExtent extent regions limit) ∧
      ∀ {State : Type} (surroundings : Surroundings State) (invocation : Invocation)
        (box : Option (Extent Float)) (mercator : Bool) (path : Option Path) (server : State)
        (files : Files),
        invocation.request = .validate box mercator path limit →
        (invocation.perform surroundings server files).1 = .ok 0 →
        ∃ given loaded, box = some given ∧
          ((Act.regionsFor surroundings invocation.config path).perform
            ⟨server, files, .empty⟩).1 = .ok loaded ∧
          let checked := if mercator then Mercator.toDegrees given else given
          Touched checked loaded ∧ ¬ limit < areaOf checked ∧
            (KeepsLimit checked loaded limit → areaOf checked ≤ limit) := by
  refine ⟨ofExtent_eq_valid_iff, ofExtent_eq_tooLarge_iff, ofExtent_eq_outsideRegion_iff,
    keepsLimit_iff, ?_, ?_⟩
  · intro others same
    by_cases touched : Touched extent regions
    · rw [ofExtent_of_touched touched, ofExtent_of_touched (same.mpr touched)]
    · rw [ofExtent_of_not_touched touched, ofExtent_of_not_touched (mt same.mp touched)]
  · intro State surroundings invocation box mercator path server files asked ended
    rw [Invocation.perform, Invocation.act, asked] at ended
    rcases Act.valid_of_validate ended with ⟨checked, loaded, known, regionsLoaded, valid⟩
    rcases isValid_ofExtent_iff.mp valid with ⟨touched, notAbove⟩
    have within : KeepsLimit checked loaded limit → areaOf checked ≤ limit := fun keeps =>
      (keeps.valid.mp (ofExtent_eq_valid_iff.mpr ⟨touched, notAbove⟩)).2
    cases box with
    | none => cases mercator <;> cases known
    | some given =>
        refine ⟨given, loaded, rfl, regionsLoaded, ?_⟩
        cases mercator <;> cases known <;> exact ⟨touched, notAbove, within⟩

/-- Without a number for a limit, an extent of any size is valid. -/
theorem valid_under_no_number :
    ∃ extent limit, (BoundingBox.read "0,0,1,1".toList).toOption = some extent ∧
      (Decimal.readFloat "NaN".toList).toOption = some limit ∧
      let regions : List (Region Float) :=
        [⟨"square", [⟨[⟨0.0, 0.0⟩, ⟨1.0, 0.0⟩, ⟨1.0, 1.0⟩, ⟨0.0, 1.0⟩], []⟩]⟩]
      ofExtent extent regions limit = .valid (areaOf extent) ∧ ¬ areaOf extent ≤ limit := by
  refine ⟨⟨0.0, 0.0, 1.0, 1.0⟩, 0.0 / 0.0, by decide +kernel, by decide +kernel, ?_, ?_⟩
  · rw [ofExtent_eq_valid_iff]
    refine ⟨⟨_, List.mem_singleton.mpr rfl, by decide +kernel⟩, ?_⟩
    rw [Decimal.lt_iff_order, (Decimal.order_eq_none_iff _ _).mpr (.inl (by decide +kernel))]
    nofun
  · rw [Decimal.le_iff_order, (Decimal.order_eq_none_iff _ _).mpr (.inr (by decide +kernel))]
    nofun

end Verdict

end ExportWatch
