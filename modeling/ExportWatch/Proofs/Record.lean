import ExportWatch.Proofs.Job.Record

/-! Decoding the text of a record gives the record back, in either layout. What is
asked for is only that the doubles in the record are read as they are written. -/

namespace ExportWatch

open Json

def Json.Number.double? : Number → Option Float
  | .whole _ => none
  | .real value => some value

/-- The doubles in an untyped value. -/
def Json.Value.doubles (value : Value) : List Float :=
  value.numbers.filterMap Number.double?

def Job.doubles (job : Job) : List Float :=
  job.area.toList ++ (job.extent.getD .null).doubles

/-- The text of an encoded record is decoded to the record, on one line and indented. -/
def ReadAs {α : Type} (decode : Decoder α) (encoded : Value) (record : α) : Prop :=
  decodeDocument decode encoded.compact = .ok record ∧
    decodeDocument decode encoded.pretty = .ok record

theorem readAs_of_decode {α : Type} {decode : Decoder α} {encoded : Value} {record : α}
    (readable : ∀ number ∈ encoded.numbers, number.Readable) (fits : encoded.nesting ≤ depthLimit)
    (decoded : decode encoded.toNode = .ok record) : ReadAs decode encoded record :=
  ⟨decodeDocument_write decode blank_onOneLine readable fits decoded,
    decodeDocument_write decode blank_indented readable fits decoded⟩

theorem readable_of_doubles {numbers : List Number} {doubles : List Float}
    (same : numbers = doubles.map .real) (readsBack : ∀ double ∈ doubles, ReadsBack double) :
    ∀ number ∈ numbers, number.Readable := by
  intro number member
  rw [same] at member
  rcases List.mem_map.mp member with ⟨double, isDouble, rfl⟩
  exact readsBack double isDouble

theorem Job.readable_encode {job : Job} (extentRead : job.ExtentRead)
    (readsBack : ∀ double ∈ job.doubles, ReadsBack double) :
    ∀ number ∈ job.encode.numbers, number.Readable := by
  intro number member
  rw [job.numbers_encode] at member
  rcases List.mem_append.mp member with area | inside
  · rcases List.mem_map.mp area with ⟨double, isArea, rfl⟩
    exact readsBack double (List.mem_append_left _ isArea)
  · cases number with
    | real double =>
        have isDouble : double ∈ (job.extent.getD .null).doubles :=
          List.mem_filterMap.mpr ⟨_, inside, rfl⟩
        exact readsBack double (List.mem_append_right _ isDouble)
    | whole whole =>
        cases given : job.extent with
        | none =>
            rw [given] at inside
            cases inside
        | some extent =>
            rw [given] at inside
            exact (extentRead extent given).2.numbers _ inside

theorem Run.readAs {run : Run} (readsBack : ∀ double ∈ run.doubles, ReadsBack double) :
    ReadAs decode run.encode run :=
  readAs_of_decode (readable_of_doubles run.numbers_encode readsBack)
    (Nat.le_trans run.nesting_encode (by decide)) run.decode_encode

/-- Decoding undoes encoding for runs, lists of runs, events, and jobs that were
themselves decoded. -/
theorem records_read_back :
    (∀ run : Run, (∀ double ∈ run.doubles, ReadsBack double) →
      ReadAs Run.decode run.encode run) ∧
    (∀ runs : List Run, (∀ run ∈ runs, ∀ double ∈ run.doubles, ReadsBack double) →
      ReadAs Run.decodeAll (Run.encodeAll runs) runs) ∧
    (∀ event : WatchEvent, (∀ double ∈ event.doubles, ReadsBack double) →
      ReadAs WatchEvent.decode event.encode event) ∧
    (∀ job : Job, job.Obtained → (∀ double ∈ job.doubles, ReadsBack double) →
      ReadAs Job.decode job.encode job) := by
  refine ⟨?run, ?runs, ?event, ?job⟩
  case run =>
    intro run readsBack
    exact run.readAs readsBack
  case runs =>
    intro runs readsBack
    have all : ∀ double ∈ runs.flatMap Run.doubles, ReadsBack double := by
      intro double member
      rcases List.mem_flatMap.mp member with ⟨run, isRun, inside⟩
      exact readsBack run isRun double inside
    exact readAs_of_decode (readable_of_doubles (Run.numbers_encodeAll runs) all)
      (Nat.le_trans (Run.nesting_encodeAll runs) (by decide)) (Run.decodeAll_encodeAll runs)
  case event =>
    intro event readsBack
    exact readAs_of_decode (readable_of_doubles event.numbers_encode readsBack)
      (Nat.le_trans event.nesting_encode (by decide)) event.decode_encode
  case job =>
    intro job obtained readsBack
    have extentRead := obtained.extentRead
    exact readAs_of_decode (job.readable_encode extentRead readsBack)
      (Job.nesting_encode extentRead) (Job.decode_encode extentRead)

theorem readsBack_sixtyTwoAndHalf : ReadsBack 62.5 :=
  readsBack_iff.mpr ⟨⟨false, ['6', '2'], ['5'], none⟩, by decide +kernel, by decide +kernel⟩

theorem records_read_back_with_doubles :
    (∃ run : Run, run.duration = some (.seconds 62.5) ∧ ReadAs Run.decode run.encode run) ∧
      ∃ job : Job, job.area = some 62.5 ∧
        job.extent = some (.array [.number (.whole 1), .real 62.5]) ∧
          ReadAs Job.decode job.encode job := by
  constructor
  · refine ⟨⟨"r1", .completed, none, none, some (.seconds 62.5), []⟩, rfl, ?_⟩
    apply records_read_back.1
    intro double member
    rw [List.mem_singleton.mp member]
    exact readsBack_sixtyTwoAndHalf
  · obtain ⟨job, same⟩ : ∃ job : Job, job = ⟨"j1", "roads", "", none, none, some 62.5, true,
        ["shp"], some (.array [.number (.whole 1), .real 62.5])⟩ := ⟨_, rfl⟩
    have doubles : job.doubles = [62.5, 62.5] := by rw [same]; rfl
    have readsBack : ∀ double ∈ job.doubles, ReadsBack double := by
      rw [doubles]
      simp [readsBack_sixtyTwoAndHalf]
    have extentRead : job.ExtentRead := by
      rw [same]
      rintro extent ⟨⟩
      refine ⟨nofun, ⟨by decide, ?_, rfl⟩⟩
      have small : InWord 1 := by constructor <;> decide
      have number : (62.5 : Float).isNaN = false := by decide
      exact List.forall_mem_cons.mpr ⟨small, List.forall_mem_singleton.mpr number⟩
    have obtained : job.Obtained :=
      .inl ⟨_, decodeDocument_write Job.decode blank_onOneLine
        (job.readable_encode extentRead readsBack) (Job.nesting_encode extentRead)
        (Job.decode_encode extentRead)⟩
    exact ⟨job, by rw [same], by rw [same], records_read_back.2.2.2 job obtained readsBack⟩

end ExportWatch
