import ExportWatch.Proofs.Run.Record
import ExportWatch.Watch.Event

/-! Decoding the node of an encoded event. -/

namespace ExportWatch

open Json

theorem decodeVariant_tagged {α : Type} {plain : String → Except Fault α}
    {holding : String → Node → Except Fault α} {name : String} {contents : Value} {value : α}
    (held : holding name contents.toNode = .ok value) :
    decodeVariant plain holding (tagged name contents).toNode = .ok value := by
  simp [tagged, Value.toNode, memberNodes, decodeVariant, held, endWith, bind, Except.bind, pure,
    Except.pure]

theorem StopReason.decode_encode (reason : StopReason) :
    decode reason.encode.toNode = .ok reason := by
  cases reason with
  | terminal status =>
      apply decodeVariant_tagged
      simp [decodeHolding, status.decode_encode, Except.map]
  | noRuns => rfl
  | cancelled => rfl

theorem Notice.decode_encode (notice : Notice) : decode notice.encode.toNode = .ok notice := by
  cases notice with
  | message text =>
      apply decodeVariant_tagged
      simp [decodeHolding, decodeText_string, Except.map]
  | rerunRequested job run =>
      have named := decodeText_string job
      have requested := decodeText_string run
      apply decodeVariant_tagged
      have fields : Node.fields rerunRules (Value.object [("job_uid", .string job),
          ("run_uid", .string run)]).toNode = .ok _ :=
        fields_of_fits (by decide) (.cons (FieldRule.fits_of named)
          (.cons (FieldRule.fits_of requested) .nil))
      simp [decodeHolding, fields, Fields.required, fieldNode, List.lookup_cons, named, requested, bind,
        Except.bind, pure, Except.pure]

namespace WatchEvent

/-! Contents with a single field, and those with a job before another field. -/

variable {α : Type} {decode : Decoder α} {value : Value} {read : α} {name : String}

theorem fields_single (decoded : decode value.toNode = .ok read) :
    Node.fields [.of name true decode] (Value.object [(name, value)]).toNode =
      .ok [(name, value.toNode)] :=
  fields_of_fits (by simp) (.cons (FieldRule.fits_of decoded) .nil)

theorem fields_ofJob (job : String) (other : name ≠ "job_uid")
    (decoded : decode value.toNode = .ok read) :
    Node.fields [jobRule, .of name true decode]
        (Value.object [("job_uid", .string job), (name, value)]).toNode =
      .ok [(name, value.toNode), ("job_uid", (Value.string job).toNode)] :=
  fields_of_fits (by simpa [FieldRule.of, jobRule] using other.symm)
    (.cons (FieldRule.fits_of (decodeText_string job)) (.cons (FieldRule.fits_of decoded) .nil))

theorem decode_encode (event : WatchEvent) : WatchEvent.decode event.encode.toNode = .ok event := by
  cases event with
  | started job =>
      have read := decodeText_string job
      apply decodeVariant_tagged
      simp [decodeHolding, jobRule, fields_single read, Fields.required, read, bind,
        Except.bind, pure, Except.pure]
  | runUpdated run =>
      have read := run.decode_encode
      apply decodeVariant_tagged
      simp [decodeHolding, fields_single read, Fields.required, read, bind,
        Except.bind, pure, Except.pure]
  | fetchFailed message =>
      have read := decodeText_string message
      apply decodeVariant_tagged
      simp [decodeHolding, fields_single read, Fields.required, read, bind,
        Except.bind, pure, Except.pure]
  | stopped job reason =>
      have read := reason.decode_encode
      have named := decodeText_string job
      have other : "reason" ≠ "job_uid" := by decide
      apply decodeVariant_tagged
      simp [decodeHolding, fields_ofJob job other read, Fields.required, List.lookup_cons, read,
        named, bind, Except.bind, pure, Except.pure]
  | completedRuns job runs =>
      have read := Run.decodeAll_encodeAll runs
      have named := decodeText_string job
      have other : "runs" ≠ "job_uid" := by decide
      apply decodeVariant_tagged
      simp [decodeHolding, fields_ofJob job other read, Fields.required, List.lookup_cons, read,
        named, bind, Except.bind, pure, Except.pure]
  | notice contents =>
      apply decodeVariant_tagged
      simp [decodeHolding, contents.decode_encode, Except.map]

end WatchEvent

theorem StopReason.nesting_encode (reason : StopReason) : reason.encode.nesting ≤ 1 := by
  cases reason <;> simp [encode, tagged, Value.nesting, memberNesting, RunStatus.encode]

theorem Notice.nesting_encode (notice : Notice) : notice.encode.nesting ≤ 2 := by
  cases notice <;> simp [encode, tagged, Value.nesting, memberNesting]

namespace WatchEvent

/-! The doubles in an event are the numbers in its encoding. -/

def doubles : WatchEvent → List Float
  | runUpdated run => run.doubles
  | completedRuns _ runs => runs.flatMap Run.doubles
  | _ => []

theorem numbers_encode (event : WatchEvent) : event.encode.numbers = event.doubles.map .real := by
  cases event with
  | started job => rfl
  | runUpdated run =>
      simp [encode, tagged, doubles, Value.numbers, memberNumbers, run.numbers_encode]
  | fetchFailed message => rfl
  | stopped job reason => cases reason <;> rfl
  | completedRuns job runs =>
      simp [encode, tagged, doubles, Value.numbers, memberNumbers, Run.numbers_encodeAll]
  | notice contents => cases contents <;> rfl

theorem nesting_encode (event : WatchEvent) : event.encode.nesting ≤ 7 := by
  cases event with
  | started job => simp [encode, tagged, Value.nesting, memberNesting]
  | runUpdated run =>
      have inner := run.nesting_encode
      simp only [encode, tagged, Value.nesting, memberNesting]
      omega
  | fetchFailed message => simp [encode, tagged, Value.nesting, memberNesting]
  | stopped job reason =>
      have inner := reason.nesting_encode
      simp only [encode, tagged, Value.nesting, memberNesting]
      omega
  | completedRuns job runs =>
      have inner := Run.nesting_encodeAll runs
      simp only [encode, tagged, Value.nesting, memberNesting]
      omega
  | notice contents =>
      have inner := contents.nesting_encode
      simp only [encode, tagged, Value.nesting, memberNesting]
      omega

end WatchEvent

end ExportWatch
