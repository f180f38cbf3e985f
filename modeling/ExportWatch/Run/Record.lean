import ExportWatch.Json.Decoder
import ExportWatch.Json.Printer
import ExportWatch.Run.Basic

/-! Runs as JSON records. Every field is written, and null stands for a missing
value. What may be missing in a record that is read has a value all the same. -/

namespace ExportWatch

open Json

def textOrNull : Option String → Value :=
  Value.optional .string

namespace RunStatus

def encode (status : RunStatus) : Value :=
  .string status.text

def decode : Decoder RunStatus :=
  decodeName named?

end RunStatus

namespace Elapsed

def encode : Elapsed → Value
  | seconds value => .real value
  | text value => .string value

/-- The whole value is read before its kind is looked at. -/
def ofValue : Value → Except Fault Elapsed
  | .number value => .ok (.seconds value.toFloat)
  | .string value => .ok (.text value)
  | _ => .error .mismatch

def decode : Decoder Elapsed := fun node => do
  ofValue (← node.toValue)

end Elapsed

namespace TaskResult

def encode (result : TaskResult) : Value :=
  .object [("url", textOrNull result.url), ("size", textOrNull result.size)]

/-- A size may be any value. What is not text is kept as its JSON text. -/
def sizeText : Value → Option String
  | .null => none
  | .string text => some text
  | value => some value.compact

def decodeSize : Decoder (Option String) := fun node =>
  node.toValue.map sizeText

def rules : List FieldRule :=
  [.of "url" false (decodeOptional decodeText), .of "size" false decodeSize]

def ofFields (fields : Fields) : Except Fault TaskResult := do
  return {
    url := ← fields.optional "url" (decodeOptional decodeText) none
    size := ← fields.optional "size" decodeSize none }

def decode : Decoder TaskResult := fun node => do
  ofFields (← node.fields rules)

end TaskResult

namespace Task

def encode (task : Task) : Value :=
  .object [("uid", .string task.uid), ("name", .string task.name),
    ("status", task.status.encode), ("started_at", textOrNull task.startedAt),
    ("finished_at", textOrNull task.finishedAt),
    ("duration", Value.optional Elapsed.encode task.duration),
    ("result", Value.optional TaskResult.encode task.result)]

def rules : List FieldRule :=
  [.of "uid" false decodeText, .of "name" true decodeText, .of "status" true RunStatus.decode,
    .of "started_at" false (decodeOptional decodeText),
    .of "finished_at" false (decodeOptional decodeText),
    .of "duration" false (decodeOptional Elapsed.decode),
    .of "result" false (decodeOptional TaskResult.decode)]

def ofFields (fields : Fields) : Except Fault Task := do
  return {
    uid := ← fields.optional "uid" decodeText ""
    name := ← fields.required "name" decodeText
    status := ← fields.required "status" RunStatus.decode
    startedAt := ← fields.optional "started_at" (decodeOptional decodeText) none
    finishedAt := ← fields.optional "finished_at" (decodeOptional decodeText) none
    duration := ← fields.optional "duration" (decodeOptional Elapsed.decode) none
    result := ← fields.optional "result" (decodeOptional TaskResult.decode) none }

def decode : Decoder Task := fun node => do
  ofFields (← node.fields rules)

end Task

namespace Run

def encode (run : Run) : Value :=
  .object [("uid", .string run.uid), ("status", run.status.encode),
    ("started_at", textOrNull run.startedAt), ("finished_at", textOrNull run.finishedAt),
    ("duration", Value.optional Elapsed.encode run.duration),
    ("tasks", .array (run.tasks.map Task.encode))]

def rules : List FieldRule :=
  [.of "uid" true decodeText, .of "status" true RunStatus.decode,
    .of "started_at" false (decodeOptional decodeText),
    .of "finished_at" false (decodeOptional decodeText),
    .of "duration" false (decodeOptional Elapsed.decode),
    .of "tasks" false (decodeList Task.decode)]

def ofFields (fields : Fields) : Except Fault Run := do
  return {
    uid := ← fields.required "uid" decodeText
    status := ← fields.required "status" RunStatus.decode
    startedAt := ← fields.optional "started_at" (decodeOptional decodeText) none
    finishedAt := ← fields.optional "finished_at" (decodeOptional decodeText) none
    duration := ← fields.optional "duration" (decodeOptional Elapsed.decode) none
    tasks := ← fields.optional "tasks" (decodeList Task.decode) [] }

def decode : Decoder Run := fun node => do
  ofFields (← node.fields rules)

def encodeAll (runs : List Run) : Value :=
  .array (runs.map encode)

def decodeAll : Decoder (List Run) :=
  decodeList decode

end Run

end ExportWatch
