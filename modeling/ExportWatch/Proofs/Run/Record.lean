import ExportWatch.Proofs.Json.Listed
import ExportWatch.Proofs.Json.Reading
import ExportWatch.Proofs.Json.Record
import ExportWatch.Run.Record

/-! Decoding the node of an encoded run. -/

namespace ExportWatch

open Json

theorem decodeOptional_textOrNull (text : Option String) :
    decodeOptional decodeText (textOrNull text).toNode = .ok text :=
  decodeOptional_optional (fun _ _ => nofun) fun content _ => decodeText_string content

theorem RunStatus.decode_encode (status : RunStatus) :
    decode status.encode.toNode = .ok status := by
  simp [decode, encode, decodeName, decodeVariant, Value.toNode, named?_text, bind, Except.bind]

/-- A text stays a text, also one that looks like a number. -/
theorem Elapsed.decode_encode (elapsed : Elapsed) : decode elapsed.encode.toNode = .ok elapsed := by
  cases elapsed with
  | seconds value => rfl
  | text value => 
      simp [decode, encode, Value.toNode, Node.toValue, ofValue, Except.map, bind, Except.bind]

theorem Elapsed.decodeOptional_encode (elapsed : Option Elapsed) :
    decodeOptional decode (Value.optional encode elapsed).toNode = .ok elapsed := by
  apply decodeOptional_optional
  · intro content _
    cases content <;> nofun
  · intro content _
    exact decode_encode content

namespace TaskResult

theorem decodeSize_textOrNull (size : Option String) :
    decodeSize (textOrNull size).toNode = .ok size := by
  cases size with
  | none => rfl
  | some text =>
      simp [decodeSize, textOrNull, Value.optional, Value.toNode, Node.toValue, sizeText,
        Except.map]

theorem decode_encode (result : TaskResult) : decode result.encode.toNode = .ok result := by
  have url := decodeOptional_textOrNull result.url
  have size := decodeSize_textOrNull result.size
  have fields : result.encode.toNode.fields rules = .ok _ :=
    fields_of_fits (by decide) (.cons (FieldRule.fits_of url) (.cons (FieldRule.fits_of size) .nil))
  rw [decode, fields]
  simp [ofFields, Fields.optional, fieldNode, List.lookup_cons, url, size, bind, Except.bind, pure,
    Except.pure]

theorem decodeOptional_encode (result : Option TaskResult) :
    decodeOptional decode (Value.optional encode result).toNode = .ok result :=
  decodeOptional_optional (fun _ _ => nofun) fun content _ => decode_encode content

end TaskResult

theorem Task.decode_encode (task : Task) : decode task.encode.toNode = .ok task := by
  have uid := decodeText_string task.uid
  have name := decodeText_string task.name
  have status := task.status.decode_encode
  have startedAt := decodeOptional_textOrNull task.startedAt
  have finishedAt := decodeOptional_textOrNull task.finishedAt
  have duration := Elapsed.decodeOptional_encode task.duration
  have result := TaskResult.decodeOptional_encode task.result
  have fields : task.encode.toNode.fields rules = .ok _ :=
    fields_of_fits (by decide) (.cons (FieldRule.fits_of uid) (.cons (FieldRule.fits_of name)
      (.cons (FieldRule.fits_of status) (.cons (FieldRule.fits_of startedAt)
        (.cons (FieldRule.fits_of finishedAt) (.cons (FieldRule.fits_of duration)
          (.cons (FieldRule.fits_of result) .nil)))))))
  rw [decode, fields]
  simp [ofFields, Fields.required, Fields.optional, fieldNode, List.lookup_cons, uid, name, status,
    startedAt, finishedAt, duration, result, bind, Except.bind, pure, Except.pure]

namespace Run

theorem decode_encode (run : Run) : decode run.encode.toNode = .ok run := by
  have uid := decodeText_string run.uid
  have status := run.status.decode_encode
  have startedAt := decodeOptional_textOrNull run.startedAt
  have finishedAt := decodeOptional_textOrNull run.finishedAt
  have duration := Elapsed.decodeOptional_encode run.duration
  have tasks : decodeList Task.decode (Value.array (run.tasks.map Task.encode)).toNode =
      .ok run.tasks :=
    decodeList_map fun task _ => task.decode_encode
  have fields : run.encode.toNode.fields rules = .ok _ :=
    fields_of_fits (by decide) (.cons (FieldRule.fits_of uid) (.cons (FieldRule.fits_of status)
      (.cons (FieldRule.fits_of startedAt) (.cons (FieldRule.fits_of finishedAt)
        (.cons (FieldRule.fits_of duration) (.cons (FieldRule.fits_of tasks) .nil))))))
  rw [decode, fields]
  simp [ofFields, Fields.required, Fields.optional, fieldNode, List.lookup_cons, uid, status,
    startedAt, finishedAt, duration, tasks, bind, Except.bind, pure, Except.pure]

theorem decodeAll_encodeAll (runs : List Run) : decodeAll (encodeAll runs).toNode = .ok runs :=
  decodeList_map fun run _ => run.decode_encode

end Run

/-! The doubles in a record are the numbers in its encoding. -/

theorem numbers_textOrNull (text : Option String) : (textOrNull text).numbers = [] := by
  cases text <;> rfl

theorem nesting_textOrNull (text : Option String) : (textOrNull text).nesting = 0 := by
  cases text <;> rfl

namespace Elapsed

def doubles : Elapsed → List Float
  | seconds value => [value]
  | text _ => []

theorem numbers_encode (elapsed : Elapsed) :
    elapsed.encode.numbers = elapsed.doubles.map .real := by
  cases elapsed <;> rfl

theorem nesting_encode (elapsed : Elapsed) : elapsed.encode.nesting = 0 := by
  cases elapsed <;> rfl

end Elapsed

namespace TaskResult

theorem numbers_encode (result : TaskResult) : result.encode.numbers = [] := by
  simp [encode, Value.numbers, memberNumbers, numbers_textOrNull]

theorem nesting_encode (result : TaskResult) : result.encode.nesting = 1 := by
  simp [encode, Value.nesting, memberNesting, nesting_textOrNull]

end TaskResult

namespace Task

def doubles (task : Task) : List Float :=
  task.duration.toList.flatMap Elapsed.doubles

theorem numbers_encode (task : Task) : task.encode.numbers = task.doubles.map .real := by
  simp [encode, doubles, Value.numbers, memberNumbers, numbers_textOrNull, numbers_optional,
    RunStatus.encode, Elapsed.numbers_encode, TaskResult.numbers_encode, List.map_flatMap]

theorem nesting_encode (task : Task) : task.encode.nesting ≤ 2 := by
  have duration : (Value.optional Elapsed.encode task.duration).nesting ≤ 1 :=
    nesting_optional_le fun elapsed _ => by rw [elapsed.nesting_encode]; exact Nat.zero_le 1
  have result : (Value.optional TaskResult.encode task.result).nesting ≤ 1 :=
    nesting_optional_le fun result _ => Nat.le_of_eq result.nesting_encode
  simp only [encode, Value.nesting, memberNesting, nesting_textOrNull, RunStatus.encode]
  omega

end Task

namespace Run

def doubles (run : Run) : List Float :=
  run.duration.toList.flatMap Elapsed.doubles ++ run.tasks.flatMap Task.doubles

theorem numbers_encode (run : Run) : run.encode.numbers = run.doubles.map .real := by
  simp [encode, doubles, Value.numbers, memberNumbers, numbers_textOrNull, numbers_optional,
    RunStatus.encode, Elapsed.numbers_encode, itemNumbers_map, Task.numbers_encode,
    List.map_flatMap]

theorem nesting_encode (run : Run) : run.encode.nesting ≤ 4 := by
  have duration : (Value.optional Elapsed.encode run.duration).nesting ≤ 1 :=
    nesting_optional_le fun elapsed _ => by rw [elapsed.nesting_encode]; exact Nat.zero_le 1
  have tasks : itemNesting (run.tasks.map Task.encode) ≤ 2 := by
    apply itemNesting_le
    intro item member
    rcases List.mem_map.mp member with ⟨task, -, rfl⟩
    exact task.nesting_encode
  simp only [encode, Value.nesting, memberNesting, nesting_textOrNull, RunStatus.encode]
  omega

theorem numbers_encodeAll (runs : List Run) :
    (encodeAll runs).numbers = (runs.flatMap doubles).map .real := by
  simp [encodeAll, Value.numbers, itemNumbers_map, numbers_encode, List.map_flatMap]

theorem nesting_encodeAll (runs : List Run) : (encodeAll runs).nesting ≤ 5 := by
  have items : itemNesting (runs.map encode) ≤ 4 := by
    apply itemNesting_le
    intro item member
    rcases List.mem_map.mp member with ⟨run, -, rfl⟩
    exact run.nesting_encode
  simp only [encodeAll, Value.nesting]
  omega

/-- A list of runs is not taken for a run, whatever numbers are in it. -/
theorem not_decoded_encodeAll (runs : List Run) :
    ∃ fault, decodeDocument decode (encodeAll runs).pretty = .error fault := by
  have objects : ∀ first ∈ (runs.map encode).head?, ∃ members, first = .object members := by
    cases runs with
    | nil => nofun
    | cons run others =>
        rintro first ⟨⟩
        exact ⟨_, rfl⟩
  rcases tokens_write_objects blank_indented _ objects with ⟨rest, begins⟩
  rcases fields_of_listed (listed_readDocument begins) with ⟨fault, refused⟩
  refine ⟨fault, ?_⟩
  rw [decodeDocument, Value.pretty, String.toList_ofList, encodeAll, decode, rules, refused]
  rfl

end Run

end ExportWatch
