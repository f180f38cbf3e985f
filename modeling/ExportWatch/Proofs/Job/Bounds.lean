import ExportWatch.Proofs.Geometry.Covering
import ExportWatch.Proofs.Job.Record
import ExportWatch.Proofs.Region.GeoJson

/-! The bounds of a job are the least extent around the exterior rings of its polygons. JSON has no
way to write what is no number, so the coordinates are numbers in every job that was decoded. -/

namespace ExportWatch

open Json GeoJson

/-! Coordinates are numbers where all numbers of a value are. -/

def Json.Number.Numeric (number : Number) : Prop :=
  number.toFloat.isNaN = false

def Json.Value.Numeric (value : Value) : Prop :=
  ∀ number ∈ value.numbers, number.Numeric

theorem Json.Number.Fits.numeric {number : Number} (fits : number.Fits) : number.Numeric := by
  cases number with
  | whole value => exact Decimal.isNaN_nearestFloat _ _ _
  | real value => exact fits

theorem Json.Value.Numeric.item {items : List Value} (numeric : (Value.array items).Numeric) :
    ∀ item ∈ items, item.Numeric := by
  rw [Value.Numeric, Value.numbers] at numeric
  induction items with
  | nil => exact fun _ member => absurd member List.not_mem_nil
  | cons head tail induction =>
      rw [itemNumbers, List.forall_mem_append] at numeric
      exact List.forall_mem_cons.mpr ⟨numeric.1, induction numeric.2⟩

theorem Json.Value.Numeric.member {members : List (String × Value)}
    (numeric : (Value.object members).Numeric) : ∀ member ∈ members, member.2.Numeric := by
  rw [Value.Numeric, Value.numbers] at numeric
  induction members with
  | nil => exact fun _ member => absurd member List.not_mem_nil
  | cons head tail induction =>
      rw [memberNumbers, List.forall_mem_append] at numeric
      exact List.forall_mem_cons.mpr ⟨numeric.1, induction numeric.2⟩

theorem forall_mem_of_forall₂ {α β : Type} {Writes : α → β → Prop} {Good : β → Prop}
    {items : List α} {results : List β} (written : List.Forall₂ Writes items results)
    (good : ∀ item ∈ items, ∀ result, Writes item result → Good result) :
    ∀ result ∈ results, Good result := by
  induction written with
  | nil => exact fun _ member => absurd member List.not_mem_nil
  | cons first _ induction =>
      rw [List.forall_mem_cons] at good
      exact List.forall_mem_cons.mpr ⟨good.1 _ first, induction good.2⟩

namespace GeoJson

variable {value : Value}

theorem WritesPosition.numeric {position : Position Float} (written : WritesPosition value position)
    (numeric : value.Numeric) : position.Numeric := by
  cases written with
  | numbers lon lat others =>
      exact ⟨numeric.item (.number lon) (by simp) lon (List.mem_singleton_self lon),
        numeric.item (.number lat) (by simp) lat (List.mem_singleton_self lat)⟩

theorem WritesRing.numeric {ring : Ring Float} (written : WritesRing value ring)
    (numeric : value.Numeric) : ∀ position ∈ ring, position.Numeric := by
  cases written with
  | positions each =>
      exact forall_mem_of_forall₂ each fun item member _ written =>
        written.numeric (numeric.item item member)

theorem WritesPolygon.numeric {polygon : Polygon Float} (written : WritesPolygon value polygon)
    (numeric : value.Numeric) : ∀ position ∈ polygon.exterior, position.Numeric := by
  cases written with
  | rings exterior => exact exterior.numeric (numeric.item _ List.mem_cons_self)

/-- Rings are not empty. -/
theorem WritesPolygon.exterior_ne_nil {polygon : Polygon Float}
    (written : WritesPolygon value polygon) : polygon.exterior ≠ [] := by
  rintro empty
  cases written with
  | rings exterior =>
      cases exterior with
      | positions _ enough =>
          rw [empty] at enough
          cases enough

theorem WritesPolygons.numeric {polygons : List (Polygon Float)}
    (written : WritesPolygons value polygons) (numeric : value.Numeric) :
    ∀ position ∈ polygons.flatMap (·.exterior), position.Numeric := by
  rw [List.forall_mem_flatMap]
  cases written with
  | one _ held written =>
      exact List.forall_mem_singleton.mpr
        (written.numeric (numeric.member _ (mem_of_lookup held)))
  | several _ held each =>
      have coordinates := numeric.member _ (mem_of_lookup held)
      exact forall_mem_of_forall₂ each fun item member _ written =>
        written.numeric (coordinates.item item member)

theorem WritesPolygons.positions_eq_nil_iff {polygons : List (Polygon Float)}
    (written : WritesPolygons value polygons) :
    polygons.flatMap (·.exterior) = [] ↔ polygons = [] := by
  have filled : ∀ polygon ∈ polygons, polygon.exterior ≠ [] := by
    cases written with
    | one _ _ written => exact List.forall_mem_singleton.mpr written.exterior_ne_nil
    | several _ _ each => exact forall_mem_of_forall₂ each fun _ _ _ written => written.exterior_ne_nil
  rw [List.flatMap_eq_nil_iff, List.eq_nil_iff_forall_not_mem]
  exact forall_congr' fun polygon => ⟨fun empty member => filled polygon member (empty member),
    fun none member => absurd member none⟩

end GeoJson

namespace Job

/-- The geometry of a job writes the polygons. -/
def WritesPolygons (job : Job) (polygons : List (Polygon Float)) : Prop :=
  ∃ geometry, job.extent = some geometry ∧ GeoJson.WritesPolygons geometry polygons

def Numeric (job : Job) : Prop :=
  ∀ geometry ∈ job.extent, geometry.Numeric

theorem Obtained.numeric {job : Job} (obtained : job.Obtained) : job.Numeric :=
  fun geometry held number member =>
    ((obtained.extentRead geometry held).2.numbers number member).numeric

variable {job : Job} {polygons : List (Polygon Float)}

theorem bounds?_eq_covering (written : job.WritesPolygons polygons) :
    job.bounds? = Extent.covering (polygons.flatMap (·.exterior)) := by
  rcases written with ⟨geometry, held, written⟩
  rw [bounds?, held, Option.bind_eq_bind, Option.bind_some,
    (readPolygons_eq_ok_iff geometry polygons).mpr written]
  rfl

theorem writesPolygons_of_bounds? {bounds : Extent Float} (found : job.bounds? = some bounds) :
    ∃ polygons, job.WritesPolygons polygons := by
  rcases Option.bind_eq_some_iff.mp found with ⟨geometry, held, found⟩
  rcases Option.bind_eq_some_iff.mp found with ⟨polygons, read, -⟩
  cases written : readPolygons geometry with
  | error fault =>
      rw [written] at read
      cases read
  | ok polygons => exact ⟨polygons, geometry, held, (readPolygons_eq_ok_iff _ _).mp written⟩

theorem bounds?_eq_none_iff (written : job.WritesPolygons polygons) :
    job.bounds? = none ↔ polygons = [] := by
  rw [bounds?_eq_covering written, Extent.covering_eq_none_iff]
  rcases written with ⟨geometry, -, written⟩
  exact written.positions_eq_nil_iff

theorem isSome_bounds?_iff :
    job.bounds?.isSome = true ↔ ∃ polygons, job.WritesPolygons polygons ∧ polygons ≠ [] := by
  rw [Option.isSome_iff_exists]
  constructor
  · rintro ⟨bounds, found⟩
    rcases writesPolygons_of_bounds? found with ⟨polygons, written⟩
    refine ⟨polygons, written, fun empty => ?_⟩
    rw [(bounds?_eq_none_iff written).mpr empty] at found
    cases found
  · rintro ⟨polygons, written, filled⟩
    exact Option.ne_none_iff_exists'.mp (mt (bounds?_eq_none_iff written).mp filled)

theorem leastAround_bounds? (numeric : job.Numeric) (written : job.WritesPolygons polygons)
    {bounds : Extent Float} (found : job.bounds? = some bounds) :
    bounds.LeastAround (polygons.flatMap (·.exterior)) := by
  rw [bounds?_eq_covering written] at found
  rcases written with ⟨geometry, held, written⟩
  exact Extent.leastAround_of_covering (written.numeric (numeric geometry held)) found

end Job

/-- The extent around several positions is the least one that contains them: there is none exactly
if there are no positions, and neither their order nor how often they occur counts. Extents overlap
exactly if some position is in both. And the bounds of a job are the least extent around all
positions of the exterior rings of its polygons, if it has any. -/
theorem extents_are_least :
    (∀ points : List (Position Float), (∀ point ∈ points, point.Numeric) →
      (Extent.covering points = none ↔ points = []) ∧
        (∀ bounds, Extent.covering points = some bounds → bounds.LeastAround points) ∧
        ∀ others, (∀ point, point ∈ others ↔ point ∈ points) →
          Option.Rel Extent.Equal (Extent.covering others) (Extent.covering points)) ∧
      (∀ extent other : Extent Float, extent.Normalized → other.Normalized →
        (extent.overlaps other = true ↔
          ∃ point, extent.contains point = true ∧ other.contains point = true)) ∧
      (∀ job : Job, job.Obtained → job.Numeric) ∧
      ∀ job : Job, job.Numeric →
        (job.bounds?.isSome = true ↔ ∃ polygons, job.WritesPolygons polygons ∧ polygons ≠ []) ∧
          ∀ polygons bounds, job.WritesPolygons polygons → job.bounds? = some bounds →
            bounds.LeastAround (polygons.flatMap (·.exterior)) := by
  refine ⟨?_, fun _ _ => Extent.overlaps_iff_common_position, fun _ => Job.Obtained.numeric, ?_⟩
  · intro points numeric
    exact ⟨Extent.covering_eq_none_iff, fun _ => Extent.leastAround_of_covering numeric,
      fun _ => Extent.covering_rel_of_mem_iff numeric⟩
  · intro job numeric
    exact ⟨Job.isSome_bounds?_iff, fun _ _ written => Job.leastAround_bounds? numeric written⟩

def touchingJobText : String :=
  "\x7b\"uid\":\"j1\",\"name\":\"roads\",\"extent\":\x7b\"type\":\"MultiPolygon\",\"coordinates\":" ++
    "[[[[0,0],[9,0],[0,9]],[[1,1],[2,1],[1,2]]],[[[-73,18],[-72.5,18],[-72,19.5,7]]]]\x7d\x7d"

/-- Extents that only touch, and a job of two polygons of which one has a hole. -/
theorem extents_are_least_of_touching :
    (⟨-2, -1, 1, 4⟩ : Extent Float).LeastAround [⟨1, 1⟩, ⟨-2, 4⟩, ⟨0, -1⟩] ∧
      Option.Rel Extent.Equal (Extent.covering [⟨0, -1⟩, ⟨1, 1⟩, ⟨0, -1⟩, ⟨-2, 4⟩])
        (some ⟨-2, -1, 1, 4⟩) ∧
      (∃ point, (⟨-2, -1, 1, 4⟩ : Extent Float).contains point = true ∧
        (⟨1, 4, 5, 5⟩ : Extent Float).contains point = true) ∧
      ∃ job polygons, decodeDocument Job.decode touchingJobText = .ok job ∧
        job.WritesPolygons polygons ∧
          (⟨-73, 0, 9, 19.5⟩ : Extent Float).LeastAround (polygons.flatMap (·.exterior)) := by
  rcases extents_are_least with ⟨around, overlapping, decodedNumeric, bounds⟩
  have numeric : ∀ point ∈ ([⟨1, 1⟩, ⟨-2, 4⟩, ⟨0, -1⟩] : List (Position Float)), point.Numeric := by
    decide
  have covered : Extent.covering [⟨1, 1⟩, ⟨-2, 4⟩, ⟨0, -1⟩] =
      some (⟨-2, -1, 1, 4⟩ : Extent Float) := by decide +kernel
  rcases around _ numeric with ⟨-, least, same⟩
  refine ⟨least _ covered, ?_, ?_, ?_⟩
  · rw [← covered]
    refine same _ fun point => ?_
    simp only [List.mem_cons, List.not_mem_nil, or_false]
    tauto
  · have overlap : (⟨-2, -1, 1, 4⟩ : Extent Float).overlaps ⟨1, 4, 5, 5⟩ = true := by decide
    exact (overlapping _ _ ⟨by decide, by decide⟩ ⟨by decide, by decide⟩).mp overlap
  · have bounded : (decodeDocument Job.decode touchingJobText).toOption.bind Job.bounds? =
        some ⟨-73, 0, 9, 19.5⟩ := by decide +kernel
    cases decoded : decodeDocument Job.decode touchingJobText with
    | error fault =>
        rw [decoded] at bounded
        cases bounded
    | ok job =>
        rw [decoded] at bounded
        have found : job.bounds? = some ⟨-73, 0, 9, 19.5⟩ := bounded
        rcases bounds job (decodedNumeric job (.inl ⟨_, decoded⟩)) with ⟨known, least⟩
        rcases known.mp (Option.isSome_iff_exists.mpr ⟨_, found⟩) with ⟨polygons, written, -⟩
        exact ⟨job, polygons, rfl, written, least polygons _ written found⟩

end ExportWatch
