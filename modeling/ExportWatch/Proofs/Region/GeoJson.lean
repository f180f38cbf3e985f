import ExportWatch.Proofs.Outcome
import ExportWatch.Region.GeoJson
import Mathlib.Data.List.Forall2
import Mathlib.Order.Bounds.Basic

/-! Which values are collections of regions, and which regions they write. What is
read is what is written, and the first feature that writes no region is reported. -/

namespace ExportWatch.GeoJson

open Json Text

/-! The grammar: a value and what it writes. -/

/-- An array that starts with two numbers. -/
inductive WritesPosition : Value → Position Float → Prop where
  | numbers (lon lat : Number) (others : List Value) :
      WritesPosition (.array (.number lon :: .number lat :: others)) ⟨lon.toFloat, lat.toFloat⟩

inductive WritesRing : Value → Ring Float → Prop where
  | positions {items : List Value} {ring : Ring Float}
      (each : List.Forall₂ WritesPosition items ring) (enough : 3 ≤ ring.length) :
      WritesRing (.array items) ring

/-- The first ring is the exterior; the others, if any, are the holes. -/
inductive WritesPolygon : Value → Polygon Float → Prop where
  | rings {first : Value} {others : List Value} {polygon : Polygon Float}
      (exterior : WritesRing first polygon.exterior)
      (holes : List.Forall₂ WritesRing others polygon.holes) :
      WritesPolygon (.array (first :: others)) polygon

inductive WritesPolygons : Value → List (Polygon Float) → Prop where
  | one {members : List (String × Value)} {coordinates : Value} {polygon : Polygon Float}
      (kind : members.lookup "type" = some (.string "Polygon"))
      (held : members.lookup "coordinates" = some coordinates)
      (written : WritesPolygon coordinates polygon) :
      WritesPolygons (.object members) [polygon]
  | several {members : List (String × Value)} {items : List Value}
      {polygons : List (Polygon Float)}
      (kind : members.lookup "type" = some (.string "MultiPolygon"))
      (held : members.lookup "coordinates" = some (.array items))
      (each : List.Forall₂ WritesPolygon items polygons) :
      WritesPolygons (.object members) polygons

/-- An object with such a geometry. -/
inductive WritesFeature : Value → List (Polygon Float) → Prop where
  | geometry {members : List (String × Value)} {geometry : Value}
      {polygons : List (Polygon Float)} (held : members.lookup "geometry" = some geometry)
      (written : WritesPolygons geometry polygons) : WritesFeature (.object members) polygons

def IsFeature (value : Value) : Prop :=
  ∃ polygons, WritesFeature value polygons

/-! Names. -/

def NamedBy (feature : Value) (name : String) : Prop :=
  ∃ properties, feature.member? "properties" = some properties ∧
    properties.member? "name" = some (.string name)

def IdentifiedBy (feature : Value) (name : String) : Prop :=
  feature.member? "id" = some (.string name) ∨
    ∃ number : Number, feature.member? "id" = some (.number number) ∧
      name = String.ofList number.text

inductive IsName (index : Nat) (feature : Value) : String → Prop where
  | named {name : String} (named : NamedBy feature name) : IsName index feature name
  | identified {name : String} (notNamed : ∀ other, ¬ NamedBy feature other)
      (identified : IdentifiedBy feature name) : IsName index feature name
  | placed (notNamed : ∀ other, ¬ NamedBy feature other)
      (notIdentified : ∀ other, ¬ IdentifiedBy feature other) :
      IsName index feature ("region-" ++ String.ofList (digitsOf index))

structure WritesRegion (index : Nat) (feature : Value) (region : Region Float) : Prop where
  polygons : WritesFeature feature region.polygons
  name : IsName index feature region.name

inductive IsCollection : Value → List Value → Prop where
  | collection {members : List (String × Value)} {features : List Value}
      (kind : members.lookup "type" = some (.string "FeatureCollection"))
      (held : members.lookup "features" = some (.array features)) :
      IsCollection (.object members) features

/-! Looking into values. -/

theorem member?_eq_some_iff {value held : Value} {name : String} :
    value.member? name = some held ↔
      ∃ members, value = .object members ∧ members.lookup name = some held := by
  cases value <;> simp [Value.member?]

theorem string?_eq_some_iff {value : Value} {text : String} :
    value.string? = some text ↔ value = .string text := by
  cases value <;> simp [Value.string?]

theorem items?_eq_some_iff {value : Value} {items : List Value} :
    value.items? = some items ↔ value = .array items := by
  cases value <;> simp [Value.items?]

theorem float?_eq_some_iff {value : Value} {coordinate : Float} :
    value.float? = some coordinate ↔
      ∃ number : Number, value = .number number ∧ number.toFloat = coordinate := by
  cases value <;> simp [Value.float?]

theorem ofOption_eq_ok_iff {ε α : Type} {fault : ε} {found : Option α} {value : α} :
    ofOption fault found = .ok value ↔ found = some value := by
  cases found <;> simp [ofOption]

/-! What each reader accepts is what the grammar says. -/

theorem each_eq_ok_iff {ε α β : Type} {read : α → Except ε β} {items : List α}
    {results : List β} :
    each read items = .ok results ↔
      List.Forall₂ (fun item result => read item = .ok result) items results := by
  induction items generalizing results with
  | nil => simp [each, eq_comm]
  | cons head tail induction =>
      rw [each, bind_eq_ok_iff, List.forall₂_cons_left_iff]
      refine exists_congr fun first => ?_
      rw [bind_eq_ok_iff]
      constructor
      · rintro ⟨read, others, tailRead, same⟩
        cases same
        exact ⟨others, read, induction.mp tailRead, rfl⟩
      · rintro ⟨others, read, tailRead, rfl⟩
        exact ⟨read, others, induction.mpr tailRead, rfl⟩

/-- When an item is read exactly as it is written, so is a list of items. -/
theorem each_eq_ok_iff_writes {ε β : Type} {read : Value → Except ε β}
    {Writes : Value → β → Prop}
    (item : ∀ value result, read value = .ok result ↔ Writes value result) {items : List Value}
    {results : List β} :
    each read items = .ok results ↔ List.Forall₂ Writes items results := by
  rw [each_eq_ok_iff]
  exact iff_of_eq (congrArg (List.Forall₂ · items results)
    (funext fun value => funext fun result => propext (item value result)))

theorem readPosition_eq_ok_iff (value : Value) (position : Position Float) :
    readPosition value = .ok position ↔ WritesPosition value position := by
  rw [readPosition, bind_eq_ok_iff]
  simp only [ofOption_eq_ok_iff, items?_eq_some_iff]
  constructor
  · rintro ⟨items, rfl, read⟩
    split at read
    · next lon lat others parts =>
        cases read
        rcases List.map_eq_cons_iff.mp parts with ⟨first, rest, rfl, firstPart, parts⟩
        rcases List.map_eq_cons_iff.mp parts with ⟨second, more, rfl, secondPart, -⟩
        rcases float?_eq_some_iff.mp firstPart with ⟨firstNumber, rfl, rfl⟩
        rcases float?_eq_some_iff.mp secondPart with ⟨secondNumber, rfl, rfl⟩
        exact .numbers firstNumber secondNumber more
    · cases read
  · rintro ⟨lon, lat, others⟩
    exact ⟨_, rfl, rfl⟩

theorem readRing_eq_ok_iff (value : Value) (ring : Ring Float) :
    readRing value = .ok ring ↔ WritesRing value ring := by
  rw [readRing, bind_eq_ok_iff]
  simp only [ofOption_eq_ok_iff, items?_eq_some_iff, bind_eq_ok_iff,
    each_eq_ok_iff_writes readPosition_eq_ok_iff]
  constructor
  · rintro ⟨items, rfl, positions, written, read⟩
    split at read
    · cases read
    · next enough =>
        cases read
        exact .positions written (not_lt.mp enough)
  · rintro ⟨written, enough⟩
    exact ⟨_, rfl, ring, written, by rw [if_neg (not_lt.mpr enough)]; rfl⟩

theorem readPolygon_eq_ok_iff (value : Value) (polygon : Polygon Float) :
    readPolygon value = .ok polygon ↔ WritesPolygon value polygon := by
  rw [readPolygon, bind_eq_ok_iff]
  simp only [ofOption_eq_ok_iff, items?_eq_some_iff]
  constructor
  · rintro ⟨items, rfl, read⟩
    cases items with
    | nil => cases read
    | cons first others =>
        simp only [bind_eq_ok_iff, readRing_eq_ok_iff,
          each_eq_ok_iff_writes readRing_eq_ok_iff] at read
        rcases read with ⟨exterior, firstWritten, holes, othersWritten, read⟩
        cases read
        exact .rings firstWritten othersWritten
  · rintro ⟨exterior, holes⟩
    refine ⟨_, rfl, ?_⟩
    simp only [bind_eq_ok_iff, readRing_eq_ok_iff, each_eq_ok_iff_writes readRing_eq_ok_iff]
    exact ⟨polygon.exterior, exterior, polygon.holes, holes, rfl⟩

/-- The text of a member. -/
theorem memberText_eq_some_iff {value : Value} {name text : String} :
    (value.member? name).bind Value.string? = some text ↔
      ∃ members, value = .object members ∧ members.lookup name = some (.string text) := by
  simp only [Option.bind_eq_some_iff, string?_eq_some_iff, exists_eq_right, member?_eq_some_iff]

theorem readPolygons_eq_ok_iff (value : Value) (polygons : List (Polygon Float)) :
    readPolygons value = .ok polygons ↔ WritesPolygons value polygons := by
  rw [readPolygons]
  simp only [bind_eq_ok_iff, ofOption_eq_ok_iff, memberText_eq_some_iff]
  constructor
  · rintro ⟨kind, ⟨members, rfl, isKind⟩, coordinates, held, read⟩
    split at read
    · next one =>
        rcases bind_eq_ok_iff.mp read with ⟨polygon, written, read⟩
        cases read
        exact .one (one ▸ isKind) held ((readPolygon_eq_ok_iff _ _).mp written)
    · split at read
      · next several =>
          rcases bind_eq_ok_iff.mp read with ⟨items, found, read⟩
          rw [ofOption_eq_ok_iff, items?_eq_some_iff] at found
          exact .several (several ▸ isKind) (found ▸ held)
            ((each_eq_ok_iff_writes readPolygon_eq_ok_iff).mp read)
      · cases read
  · rintro (⟨kind, held, written⟩ | ⟨kind, held, written⟩)
    · refine ⟨_, ⟨_, rfl, kind⟩, _, held, ?_⟩
      rw [if_pos rfl, (readPolygon_eq_ok_iff _ _).mpr written]
      rfl
    · refine ⟨_, ⟨_, rfl, kind⟩, _, held, ?_⟩
      rw [if_neg (by decide), if_pos rfl]
      exact (each_eq_ok_iff_writes readPolygon_eq_ok_iff).mpr written

/-! Names. -/

theorem namedBy_iff {feature : Value} {name : String} :
    (((feature.member? "properties").bind (·.member? "name")).bind Value.string?) = some name ↔
      NamedBy feature name := by
  simp only [Option.bind_eq_some_iff, string?_eq_some_iff, exists_eq_right, NamedBy]

theorem identifiedBy_iff {feature : Value} {name : String} :
    (feature.member? "id").bind identifier? = some name ↔ IdentifiedBy feature name := by
  rw [Option.bind_eq_some_iff, IdentifiedBy]
  constructor
  · rintro ⟨value, found, read⟩
    cases value with
    | string text =>
        cases read
        exact .inl found
    | number number =>
        cases read
        exact .inr ⟨number, found, rfl⟩
    | _ => cases read
  · rintro (found | ⟨number, found, rfl⟩)
    · exact ⟨_, found, rfl⟩
    · exact ⟨_, found, rfl⟩

theorem property_eq_none_iff {feature : Value} :
    (((feature.member? "properties").bind (·.member? "name")).bind Value.string?) = none ↔
      ∀ name, ¬ NamedBy feature name := by
  rw [Option.eq_none_iff_forall_ne_some]
  exact forall_congr' fun name => not_congr namedBy_iff

theorem identifier_eq_none_iff {feature : Value} :
    (feature.member? "id").bind identifier? = none ↔ ∀ name, ¬ IdentifiedBy feature name := by
  rw [Option.eq_none_iff_forall_ne_some]
  exact forall_congr' fun name => not_congr identifiedBy_iff

theorem isName_regionName (index : Nat) (feature : Value) :
    IsName index feature (regionName index feature) := by
  unfold regionName
  simp only []
  cases named : ((feature.member? "properties").bind (·.member? "name")).bind Value.string? with
  | some name => exact .named (namedBy_iff.mp named)
  | none =>
      have notNamed := property_eq_none_iff.mp named
      cases identified : (feature.member? "id").bind identifier? with
      | some name => exact .identified notNamed (identifiedBy_iff.mp identified)
      | none => exact .placed notNamed (identifier_eq_none_iff.mp identified)

theorem IsName.eq_regionName {index : Nat} {feature : Value} {name : String}
    (isName : IsName index feature name) : name = regionName index feature := by
  unfold regionName
  simp only []
  cases isName with
  | named named => rw [namedBy_iff.mpr named, Option.some_or, Option.getD_some]
  | identified notNamed identified =>
      rw [property_eq_none_iff.mpr notNamed, identifiedBy_iff.mpr identified, Option.none_or,
        Option.getD_some]
  | placed notNamed notIdentified =>
      rw [property_eq_none_iff.mpr notNamed, identifier_eq_none_iff.mpr notIdentified,
        Option.none_or, Option.getD_none]

/-! Features. Whether a feature is read does not depend on its place. -/

theorem readFeature_eq_ok_iff {index : Nat} {feature : Value} {region : Region Float} :
    readFeature index feature = .ok region ↔ WritesRegion index feature region := by
  rw [readFeature]
  simp only [bind_eq_ok_iff, ofOption_eq_ok_iff, member?_eq_some_iff, mapError_eq_ok_iff,
    readPolygons_eq_ok_iff]
  constructor
  · rintro ⟨-, -, geometry, ⟨members, rfl, held⟩, polygons, written, read⟩
    cases read
    exact ⟨.geometry held written, isName_regionName index _⟩
  · rintro ⟨polygons, name⟩
    rcases region with ⟨_, polygons⟩
    cases polygons with
    | geometry held written =>
        exact ⟨_, rfl, _, ⟨_, rfl, held⟩, _, written, by rw [← name.eq_regionName]; rfl⟩

theorem isFeature_iff (index : Nat) {feature : Value} :
    IsFeature feature ↔ ∃ region, readFeature index feature = .ok region := by
  simp only [readFeature_eq_ok_iff]
  constructor
  · rintro ⟨polygons, written⟩
    exact ⟨⟨regionName index feature, polygons⟩, written, isName_regionName index feature⟩
  · rintro ⟨region, written⟩
    exact ⟨region.polygons, written.polygons⟩

theorem readFeatures_eq_ok_iff {start : Nat} {features : List Value}
    {regions : List (Region Float)} :
    readFeatures start features = .ok regions ↔
      List.Forall₂ (fun placed region => WritesRegion placed.2 placed.1 region)
        (features.zipIdx start) regions := by
  induction features generalizing start regions with
  | nil => simp [readFeatures, eq_comm]
  | cons head tail induction =>
      rw [readFeatures, List.zipIdx_cons, List.forall₂_cons_left_iff]
      simp only [bind_eq_ok_iff, mapError_eq_ok_iff, readFeature_eq_ok_iff, induction]
      refine exists_congr fun region => ?_
      constructor
      · rintro ⟨written, others, tailWritten, same⟩
        cases same
        exact ⟨others, written, tailWritten, rfl⟩
      · rintro ⟨others, written, tailWritten, rfl⟩
        exact ⟨written, others, tailWritten, rfl⟩

theorem exists_regions_iff (start : Nat) {features : List Value} :
    (∃ regions, readFeatures start features = .ok regions) ↔
      ∀ feature ∈ features, IsFeature feature := by
  induction features generalizing start with
  | nil => simp [readFeatures]
  | cons head tail induction =>
      rw [List.forall_mem_cons, isFeature_iff start, ← induction (start + 1), readFeatures]
      simp only [bind_eq_ok_iff, mapError_eq_ok_iff]
      constructor
      · rintro ⟨_, region, headRead, regions, tailRead, -⟩
        exact ⟨⟨region, headRead⟩, regions, tailRead⟩
      · rintro ⟨⟨region, headRead⟩, regions, tailRead⟩
        exact ⟨region :: regions, region, headRead, regions, tailRead, rfl⟩

/-- The places of the values that are no features. -/
def Misplaced (features : List Value) : Set Nat :=
  {place | ∃ feature, features[place]? = some feature ∧ ¬ IsFeature feature}

theorem isLeast_misplaced_zero {head : Value} (bad : ¬ IsFeature head) (tail : List Value) :
    IsLeast (Misplaced (head :: tail)) 0 :=
  ⟨⟨head, rfl, bad⟩, fun _ _ => Nat.zero_le _⟩

theorem isLeast_misplaced_succ {head : Value} (good : IsFeature head) {tail : List Value}
    {place : Nat} (least : IsLeast (Misplaced tail) place) :
    IsLeast (Misplaced (head :: tail)) (place + 1) := by
  rcases least with ⟨member, lower⟩
  refine ⟨member, ?_⟩
  rintro (_ | other) ⟨feature, found, bad⟩
  · cases found
    exact absurd good bad
  · exact Nat.succ_le_succ (lower ⟨feature, found, bad⟩)

theorem fault_of_readFeatures {start : Nat} {features : List Value} {fault : RegionFault}
    (read : readFeatures start features = .error fault) :
    ∃ place reason, fault = .feature (start + place) reason ∧
      IsLeast (Misplaced features) place := by
  induction features generalizing start with
  | nil => cases read
  | cons head tail induction =>
      rw [readFeatures, bind_eq_error_iff] at read
      rcases read with failed | ⟨region, read, later⟩
      · rcases mapError_eq_error_iff.mp failed with ⟨reason, headFailed, rfl⟩
        have bad : ¬ IsFeature head := by
          rw [isFeature_iff start, headFailed]
          nofun
        exact ⟨0, reason, rfl, isLeast_misplaced_zero bad tail⟩
      · have good : IsFeature head := (isFeature_iff start).mpr ⟨region, mapError_eq_ok_iff.mp read⟩
        rcases bind_eq_error_iff.mp later with tailFailed | ⟨_, -, impossible⟩
        · rcases induction tailFailed with ⟨place, reason, rfl, least⟩
          refine ⟨place + 1, reason, ?_, isLeast_misplaced_succ good least⟩
          rw [Nat.add_right_comm, Nat.add_assoc]
        · cases impossible

/-- The first value that is no feature is reported, and nothing else. -/
theorem readFeatures_eq_error_iff {features : List Value} {index : Nat} :
    (∃ reason, readFeatures 0 features = .error (.feature index reason)) ↔
      IsLeast (Misplaced features) index := by
  constructor
  · rintro ⟨reason, read⟩
    rcases fault_of_readFeatures read with ⟨place, _, same, least⟩
    rw [Nat.zero_add] at same
    cases same
    exact least
  · intro least
    rcases least.1 with ⟨feature, found, bad⟩
    cases read : readFeatures 0 features with
    | ok regions =>
        have all := (exists_regions_iff 0).mp ⟨regions, read⟩
        exact absurd (all feature (List.mem_of_getElem? found)) bad
    | error fault =>
        rcases fault_of_readFeatures read with ⟨place, reason, rfl, otherLeast⟩
        rw [Nat.zero_add, least.unique otherLeast]
        exact ⟨reason, rfl⟩

/-! Collections. -/

theorem isCollection_iff {value : Value} {features : List Value} :
    IsCollection value features ↔
      (value.member? "type").bind Value.string? = some "FeatureCollection" ∧
        (value.member? "features").bind Value.items? = some features := by
  rw [memberText_eq_some_iff, Option.bind_eq_some_iff]
  simp only [items?_eq_some_iff, exists_eq_right, member?_eq_some_iff]
  constructor
  · rintro ⟨kind, held⟩
    exact ⟨⟨_, rfl, kind⟩, _, rfl, held⟩
  · rintro ⟨⟨members, rfl, kind⟩, others, same, held⟩
    cases same
    exact .collection kind held

theorem readRegions_of_collection {value : Value} {features : List Value}
    (collection : IsCollection value features) : readRegions value = readFeatures 0 features := by
  rcases isCollection_iff.mp collection with ⟨kind, held⟩
  rw [readRegions, kind, held]
  rfl

theorem readRegions_of_no_collection {value : Value}
    (other : ∀ features, ¬ IsCollection value features) :
    readRegions value = .error .notACollection := by
  rw [readRegions]
  cases kind : (value.member? "type").bind Value.string? with
  | none => rfl
  | some text =>
      change (if text = "FeatureCollection" then _ else _) = _
      split
      · next isKind =>
          cases held : (value.member? "features").bind Value.items? with
          | none => rfl
          | some features => exact absurd (isCollection_iff.mpr ⟨isKind ▸ kind, held⟩) (other features)
      · rfl

/-- Exactly the collections in which every value is a feature are read. They give one
region for each feature, in order. Of any other collection the first value that is no
feature is reported. -/
theorem regions_as_written (value : Value) :
    (∀ regions, readRegions value = .ok regions ↔
      ∃ features, IsCollection value features ∧
        List.Forall₂ (fun placed region => WritesRegion placed.2 placed.1 region)
          features.zipIdx regions) ∧
      ((∃ regions, readRegions value = .ok regions) ↔
        ∃ features, IsCollection value features ∧ ∀ feature ∈ features, IsFeature feature) ∧
      (readRegions value = .error .notACollection ↔ ∀ features, ¬ IsCollection value features) ∧
      ∀ index, (∃ reason, readRegions value = .error (.feature index reason)) ↔
        ∃ features, IsCollection value features ∧ IsLeast (Misplaced features) index := by
  by_cases isCollection : ∃ features, IsCollection value features
  · rcases isCollection with ⟨features, collection⟩
    have only (others : List Value) (other : IsCollection value others) : others = features := by
      have same := (isCollection_iff.mp other).2
      rw [(isCollection_iff.mp collection).2, Option.some_inj] at same
      exact same.symm
    have given {Holds : List Value → Prop} :
        (∃ others, IsCollection value others ∧ Holds others) ↔ Holds features :=
      ⟨fun ⟨others, other, holds⟩ => only others other ▸ holds,
        fun holds => ⟨features, collection, holds⟩⟩
    rw [readRegions_of_collection collection]
    simp only [given]
    refine ⟨fun _ => readFeatures_eq_ok_iff, exists_regions_iff 0, ?_,
      fun _ => readFeatures_eq_error_iff⟩
    constructor
    · intro read
      rcases fault_of_readFeatures read with ⟨_, _, impossible, -⟩
      cases impossible
    · intro other
      exact absurd collection (other features)
  · rw [not_exists] at isCollection
    rw [readRegions_of_no_collection isCollection]
    simp [isCollection]

end ExportWatch.GeoJson
