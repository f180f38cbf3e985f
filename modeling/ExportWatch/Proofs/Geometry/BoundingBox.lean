import ExportWatch.Geometry.BoundingBox
import ExportWatch.Proofs.Decimal.ReadBack
import ExportWatch.Proofs.Geometry.Corners
import ExportWatch.Proofs.Outcome
import ExportWatch.Proofs.Text.Blank
import ExportWatch.Proofs.Text.Cut
import ExportWatch.Server.Client

/-! Which texts are bounding boxes, which extents they write, and that an extent is read back from
the text that is sent for it. -/

namespace ExportWatch

open Text Decimal

namespace BoundingBox

/-! The grammar: four literals of finite numbers with commas between them, and blanks around
them. -/

/-- Blanks around the literal do not matter. -/
def WritesNumber (field : List Char) (literal : Literal) : Prop :=
  literal.IsLiteral (trim field)

structure WritesCorners (text : List Char) (x1 y1 x2 y2 : Literal) : Prop where
  fields : List.Forall₂ WritesNumber (parts ',' text) [x1, y1, x2, y2]
  finite : ∀ literal ∈ [x1, y1, x2, y2], isFinite literal.toFloat = true

/-- What a text that is no bounding box is refused for. Fields that are no numbers come first, then
the count. -/
inductive IsFault (text : List Char) : Fault → Prop where
  | coordinate {before after : List (List Char)} {field : List Char}
      (split : parts ',' text = before ++ field :: after)
      (readable : ∀ other ∈ before, ∃ literal, WritesNumber other literal)
      (unreadable : ∀ literal, ¬ WritesNumber field literal) :
      IsFault text (.coordinate (if trim field = [] then .empty else .malformed))
  | count {literals : List Literal}
      (fields : List.Forall₂ WritesNumber (parts ',' text) literals)
      (other : (parts ',' text).length ≠ 4) : IsFault text (.count (parts ',' text).length)
  | notFinite {literals : List Literal}
      (fields : List.Forall₂ WritesNumber (parts ',' text) literals)
      (four : (parts ',' text).length = 4)
      (infinite : ∃ literal ∈ literals, isFinite literal.toFloat = false) :
      IsFault text .notFinite

/-! Reading. -/

variable {text : List Char}

theorem coordinates_eq_ok_iff {literals : List Literal} :
    coordinates text = .ok literals ↔ List.Forall₂ WritesNumber (parts ',' text) literals := by
  rw [coordinates, mapM_eq_ok_iff]
  simp only [Literal.read_eq_ok_iff]
  rfl

theorem coordinates_eq_error_iff {cause : LiteralFault} :
    coordinates text = .error cause ↔
      ∃ before field after, parts ',' text = before ++ field :: after ∧
        (∀ other ∈ before, ∃ literal, WritesNumber other literal) ∧
        (∀ literal, ¬ WritesNumber field literal) ∧
        cause = if trim field = [] then .empty else .malformed := by
  rw [coordinates, mapM_eq_error_iff]
  simp only [Literal.read_eq_ok_iff, Literal.read_eq_error_iff]
  rfl

theorem readLiterals_eq_ok_iff {x1 y1 x2 y2 : Literal} :
    readLiterals text = .ok (x1, y1, x2, y2) ↔ WritesCorners text x1 y1 x2 y2 := by
  have split : WritesCorners text x1 y1 x2 y2 ↔
      coordinates text = .ok [x1, y1, x2, y2] ∧
        [x1, y1, x2, y2].all Literal.isFinite = true := by
    rw [coordinates_eq_ok_iff, List.all_eq_true]
    exact ⟨fun written => ⟨written.fields, written.finite⟩, fun parts => ⟨parts.1, parts.2⟩⟩
  rw [split, readLiterals]
  split
  · next cause faulty => simp [faulty]
  · next a b c d read =>
      rw [read]
      split
      · next finite =>
          constructor
          · rintro ⟨⟩
            exact ⟨rfl, finite⟩
          · rintro ⟨⟨⟩, -⟩
            rfl
      · next infinite =>
          constructor
          · rintro ⟨⟩
          · rintro ⟨⟨⟩, finite⟩
            exact absurd finite infinite
  · next others other read =>
      rw [read]
      constructor
      · rintro ⟨⟩
      · rintro ⟨⟨⟩, -⟩
        exact absurd rfl (other _ _ _ _)

theorem all_isFinite_eq_false_iff {literals : List Literal} :
    ¬ literals.all Literal.isFinite = true ↔
      ∃ literal ∈ literals, isFinite literal.toFloat = false := by
  rw [Bool.not_eq_true, List.all_eq_false]
  simp only [Literal.isFinite, Bool.not_eq_true]

theorem readLiterals_eq_error_iff {fault : Fault} :
    readLiterals text = .error fault ↔ IsFault text fault := by
  constructor
  · intro read
    rw [readLiterals] at read
    split at read
    · next cause faulty =>
        cases read
        rcases coordinates_eq_error_iff.mp faulty with
          ⟨before, field, after, split, readable, unreadable, rfl⟩
        exact .coordinate split readable unreadable
    · next found =>
        have fields := coordinates_eq_ok_iff.mp found
        split at read
        · cases read
        · next infinite =>
            cases read
            exact .notFinite fields fields.length_eq (all_isFinite_eq_false_iff.mp infinite)
    · next others other found =>
        have fields := coordinates_eq_ok_iff.mp found
        cases read
        rw [← fields.length_eq]
        refine .count fields ?_
        rw [fields.length_eq, Ne, List.length_eq_four]
        rintro ⟨a, b, c, d, rfl⟩
        exact other a b c d rfl
  · intro isFault
    cases isFault with
    | coordinate split readable unreadable =>
        rw [readLiterals, coordinates_eq_error_iff.mpr
          ⟨_, _, _, split, readable, unreadable, rfl⟩]
    | @count literals fields other =>
        rw [fields.length_eq] at other ⊢
        rw [readLiterals, coordinates_eq_ok_iff.mpr fields]
        split
        · next impossible => cases impossible
        · next same =>
            cases same
            exact absurd rfl other
        · next same =>
            cases same
            rfl
    | @notFinite literals fields four infinite =>
        rw [fields.length_eq, List.length_eq_four] at four
        rcases four with ⟨a, b, c, d, rfl⟩
        rw [readLiterals, coordinates_eq_ok_iff.mpr fields]
        simp only []
        rw [if_neg (all_isFinite_eq_false_iff.mpr infinite)]

theorem read_eq_error_iff {fault : Fault} : read text = .error fault ↔ IsFault text fault := by
  rw [read, map_eq_error_iff, readLiterals_eq_error_iff]

theorem WritesCorners.spannedBy {x1 y1 x2 y2 : Literal} (written : WritesCorners text x1 y1 x2 y2) :
    (Extent.ofCorners x1.toFloat y1.toFloat x2.toFloat y2.toFloat).SpannedBy
      x1.toFloat y1.toFloat x2.toFloat y2.toFloat where
  lon := Sorted.lesser_greater (written.finite x1 (by simp)) (written.finite x2 (by simp))
  lat := Sorted.lesser_greater (written.finite y1 (by simp)) (written.finite y2 (by simp))

theorem read_eq_ok_iff {box : Extent Float} :
    read text = .ok box ↔ ∃ x1 y1 x2 y2 : Literal, WritesCorners text x1 y1 x2 y2 ∧
      box.SpannedBy x1.toFloat y1.toFloat x2.toFloat y2.toFloat := by
  rw [read, map_eq_ok_iff]
  constructor
  · rintro ⟨⟨x1, y1, x2, y2⟩, literals, rfl⟩
    have written := readLiterals_eq_ok_iff.mp literals
    exact ⟨x1, y1, x2, y2, written, written.spannedBy⟩
  · rintro ⟨x1, y1, x2, y2, written, spanned⟩
    exact ⟨(x1, y1, x2, y2), readLiterals_eq_ok_iff.mpr written,
      spanned.unique written.spannedBy⟩

theorem WritesCorners.read_eq {x1 y1 x2 y2 : Literal} (written : WritesCorners text x1 y1 x2 y2) :
    ∃ box, read text = .ok box ∧
      box.SpannedBy x1.toFloat y1.toFloat x2.toFloat y2.toFloat :=
  ⟨_, read_eq_ok_iff.mpr ⟨_, _, _, _, written, written.spannedBy⟩, written.spannedBy⟩

/-! Exchanging fields. -/

theorem parts_join_of_subset {fields : List (List Char)} (filled : fields ≠ [])
    (given : fields ⊆ parts ',' text) : parts ',' (join [','] fields) = fields :=
  parts_join filled fun _ member => not_mem_of_mem_parts (given member)

def WritesFinite (field : List Char) (literal : Literal) : Prop :=
  WritesNumber field literal ∧ isFinite literal.toFloat = true

section Exchange

variable {a b c d : List Char} {x1 y1 x2 y2 : Literal} {box : Extent Float}

theorem writesCorners_iff (fields : parts ',' text = [a, b, c, d]) :
    WritesCorners text x1 y1 x2 y2 ↔
      WritesFinite a x1 ∧ WritesFinite b y1 ∧ WritesFinite c x2 ∧ WritesFinite d y2 := by
  have split : WritesCorners text x1 y1 x2 y2 ↔
      List.Forall₂ WritesNumber [a, b, c, d] [x1, y1, x2, y2] ∧
        ∀ literal ∈ [x1, y1, x2, y2], isFinite literal.toFloat = true :=
    ⟨fun written => ⟨fields ▸ written.fields, written.finite⟩,
      fun written => ⟨fields ▸ written.1, written.2⟩⟩
  rw [split]
  simp only [List.forall₂_cons, List.forall₂_nil_left_iff, List.forall_mem_cons,
    WritesFinite, and_true]
  tauto

variable (fields : parts ',' text = [a, b, c, d]) (readBox : read text = .ok box)
include fields readBox

theorem read_exchanged_lon :
    ∃ other, read (join [','] [c, b, a, d]) = .ok other ∧ other.Equal box := by
  rcases read_eq_ok_iff.mp readBox with ⟨x1, y1, x2, y2, written, spanned⟩
  rcases (writesCorners_iff fields).mp written with ⟨first, second, third, fourth⟩
  have exchanged : parts ',' (join [','] [c, b, a, d]) = [c, b, a, d] :=
    parts_join_of_subset (List.cons_ne_nil _ _) (by rw [fields]; simp)
  rcases ((writesCorners_iff exchanged).mpr ⟨third, second, first, fourth⟩).read_eq with
    ⟨other, otherRead, otherSpanned⟩
  have lon := spanned.lon.swap otherSpanned.lon first.2 third.2
  have lat := spanned.lat.equal_of_sorted otherSpanned.lat second.2 fourth.2
  exact ⟨other, otherRead, lon.1, lat.1, lon.2, lat.2⟩

theorem read_exchanged_lat :
    ∃ other, read (join [','] [a, d, c, b]) = .ok other ∧ other.Equal box := by
  rcases read_eq_ok_iff.mp readBox with ⟨x1, y1, x2, y2, written, spanned⟩
  rcases (writesCorners_iff fields).mp written with ⟨first, second, third, fourth⟩
  have exchanged : parts ',' (join [','] [a, d, c, b]) = [a, d, c, b] :=
    parts_join_of_subset (List.cons_ne_nil _ _) (by rw [fields]; simp)
  rcases ((writesCorners_iff exchanged).mpr ⟨first, fourth, third, second⟩).read_eq with
    ⟨other, otherRead, otherSpanned⟩
  have lon := spanned.lon.equal_of_sorted otherSpanned.lon first.2 third.2
  have lat := spanned.lat.swap otherSpanned.lat second.2 fourth.2
  exact ⟨other, otherRead, lon.1, lat.1, lon.2, lat.2⟩

end Exchange

/-! What is sent for an extent. -/

theorem writesFinite_plainText {value : Float} (finite : isFinite value = true) :
    ∃ literal : Literal, WritesFinite (plainText value) literal ∧ literal.toFloat = value := by
  rcases plainText_writes finite with ⟨literal, isLiteral, same⟩
  have tight : Tight (plainText value) := .of_forall fun character member =>
    (plainText_solid finite character member).1
  refine ⟨literal, ⟨?_, same ▸ finite⟩, same⟩
  rwa [WritesNumber, tight.trim_eq]

theorem parts_write {extent : Extent Float} (finite : extent.Finite) :
    parts ',' (write extent) = [plainText extent.west, plainText extent.south,
      plainText extent.east, plainText extent.north] := by
  refine parts_join (List.cons_ne_nil _ _) ?_
  have bare : ∀ value ∈ [extent.west, extent.south, extent.east, extent.north],
      ',' ∉ plainText value := fun value member comma =>
    (plainText_solid (finite value member) ',' comma).2 rfl
  simpa using bare

theorem read_write {extent : Extent Float} (finite : extent.Finite) :
    ∃ box, read (write extent) = .ok box ∧
      box.SpannedBy extent.west extent.south extent.east extent.north := by
  have all := finite
  simp only [Extent.Finite, List.forall_mem_cons] at all
  rcases all with ⟨west, south, east, north, -⟩
  rcases writesFinite_plainText west with ⟨x1, first, firstSame⟩
  rcases writesFinite_plainText south with ⟨y1, second, secondSame⟩
  rcases writesFinite_plainText east with ⟨x2, third, thirdSame⟩
  rcases writesFinite_plainText north with ⟨y2, fourth, fourthSame⟩
  rw [← firstSame, ← secondSame, ← thirdSame, ← fourthSame]
  exact ((writesCorners_iff (parts_write finite)).mpr ⟨first, second, third, fourth⟩).read_eq

theorem lookup_field {α : Type} (name key : String) (value : Option α) (write : α → List Char) :
    (value.toList.map fun value => (name, write value)).lookup key =
      if key = name then value.map write else none := by
  cases value with
  | none => simp
  | some value =>
      by_cases same : key = name
      · simp [same]
      · simp [List.lookup_cons, beq_false_of_ne same, same]

/-- The box is sent in a field of its own. -/
theorem lookup_bbox (query : JobQuery) :
    query.fields.lookup "bbox" = query.extent.map write := by
  simp [JobQuery.fields, JobQuery.textField, JobQuery.dateField, List.lookup_append, lookup_field]

/-- A text is a bounding box exactly if it is four literals of finite numbers with commas between
them, and then it is read as the extent between the two corners. What stands for the corners may
change places: the extent is equal. Any other text is refused for the first thing wrong with it, and
of every extent of finite numbers what a search sends is read back. -/
theorem read_as_written :
    (∀ text box, read text = .ok box ↔ ∃ x1 y1 x2 y2 : Literal,
      WritesCorners text x1 y1 x2 y2 ∧
        box.SpannedBy x1.toFloat y1.toFloat x2.toFloat y2.toFloat) ∧
      (∀ text box, read text = .ok box → box.Normalized) ∧
      (∀ text a b c d box, parts ',' text = [a, b, c, d] → read text = .ok box →
        (∃ other, read (join [','] [c, b, a, d]) = .ok other ∧ other.Equal box) ∧
          ∃ other, read (join [','] [a, d, c, b]) = .ok other ∧ other.Equal box) ∧
      (∀ text fault, read text = .error fault ↔ IsFault text fault) ∧
      ∀ (query : JobQuery) extent, query.extent = some extent → extent.Finite →
        ∃ text box, query.fields.lookup "bbox" = some text ∧ read text = .ok box ∧
          box.SpannedBy extent.west extent.south extent.east extent.north ∧
          (box.Equal extent ↔ extent.Normalized) := by
  refine ⟨fun _ _ => read_eq_ok_iff, ?_, ?_, fun _ _ => read_eq_error_iff, ?_⟩
  · intro text box readBox
    rcases read_eq_ok_iff.mp readBox with ⟨x1, y1, x2, y2, written, spanned⟩
    exact ⟨spanned.lon.le (written.finite x2 (by simp)),
      spanned.lat.le (written.finite y2 (by simp))⟩
  · intro text a b c d box fields readBox
    exact ⟨read_exchanged_lon fields readBox, read_exchanged_lat fields readBox⟩
  · intro query extent held finite
    rcases read_write finite with ⟨box, readBox, spanned⟩
    refine ⟨write extent, box, ?_, readBox, spanned, spanned.equal_iff finite⟩
    rw [lookup_bbox, held]
    rfl

theorem read_as_written_of_search :
    (∃ box other, read "3, 2,-1.5 ,-4".toList = .ok box ∧ box.Normalized ∧
      read "-1.5 , 2,3,-4".toList = .ok other ∧ other.Equal box) ∧
      ∃ text box, (⟨none, none, none, none, some ⟨-1.5, -4, 3, -0.0⟩⟩ : JobQuery).fields.lookup
        "bbox" = some text ∧ read text = .ok box ∧ box.Equal ⟨-1.5, -4, 3, -0.0⟩ := by
  rcases read_as_written with ⟨-, normalized, exchanged, -, sent⟩
  constructor
  · have accepted : (read "3, 2,-1.5 ,-4".toList).isOk = true := by decide +kernel
    cases readBox : read "3, 2,-1.5 ,-4".toList with
    | error fault =>
        rw [readBox] at accepted
        cases accepted
    | ok box =>
        rcases (exchanged _ "3".toList " 2".toList "-1.5 ".toList "-4".toList box (by decide)
          readBox).1 with ⟨other, readOther, equal⟩
        exact ⟨box, other, rfl, normalized _ box readBox, readOther, equal⟩
  · rcases sent ⟨none, none, none, none, some ⟨-1.5, -4, 3, -0.0⟩⟩ _ rfl (by decide) with
      ⟨text, box, field, readBox, -, equal⟩
    exact ⟨text, box, field, readBox, equal.mpr ⟨by decide, by decide⟩⟩

end BoundingBox

end ExportWatch
