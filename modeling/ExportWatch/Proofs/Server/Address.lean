import ExportWatch.Proofs.Url.Form
import ExportWatch.Proofs.Url.Segment
import ExportWatch.Server.Client

/-! Where questions are asked: on the server of the address that a client was given, below its
path, and with the fields of the question as the query. -/

namespace ExportWatch

open Text

/-- On the same server, on from the path, and with nothing but these fields. -/
structure Url.IsBelow (url base : Url) (path : List Char)
    (fields : List (List Char × List Char)) : Prop where
  server : { url with path := base.path, query := base.query, fragment := base.fragment } = base
  path : url.path.text = Url.withEndingSlash base.path.text ++ path
  fragment : url.fragment = none
  query : url.query = none ↔ fields = []
  fields : Url.formFields? (url.query.getD []) = some fields

/-! The filters of a search, as the server should get them. -/

namespace JobQuery

/-- A filter that is not set is not sent, and neither is an empty text. -/
def filter (name : String) (value : Option (List Char)) : List (List Char × List Char) :=
  (value.filter (· ≠ [])).toList.map fun text => (name.toList, text)

def filters (query : JobQuery) : List (List Char × List Char) :=
  filter "search" (query.search.map String.toList) ++
    filter "user" (query.user.map String.toList) ++
    filter "start_date" (query.createdFrom.map Date.write) ++
    filter "end_date" (query.createdTo.map Date.write) ++
    filter "bbox" (query.extent.map BoundingBox.write)

theorem texts_textField (name : String) (value : Option String) :
    Url.fieldTexts (textField name value) = filter name (value.map String.toList) := by
  cases value with
  | none => rfl
  | some text =>
      by_cases empty : text = "" <;>
        simp [Url.fieldTexts, textField, filter, Option.filter, empty]

theorem texts_written {α : Type} {write : α → List Char} (filled : ∀ value, write value ≠ [])
    (name : String) (value : Option α) :
    Url.fieldTexts (value.toList.map fun value => (name, write value)) =
      filter name (value.map write) := by
  cases value with
  | none => rfl
  | some value => simp [Url.fieldTexts, filter, Option.filter, filled value]

theorem date_write_ne_nil (date : Date) : date.write ≠ [] := by
  simp [Date.write]

theorem boundingBox_write_ne_nil (extent : Extent Float) : BoundingBox.write extent ≠ [] := by
  simp [BoundingBox.write, join, List.intercalate_cons_cons]

theorem texts_fields (query : JobQuery) : Url.fieldTexts query.fields = query.filters := by
  have date (name : String) (value : Option Date) :
      Url.fieldTexts (dateField name value) = filter name (value.map Date.write) :=
    texts_written date_write_ne_nil name value
  have box := texts_written boundingBox_write_ne_nil "bbox" query.extent
  rw [fields, Url.fieldTexts_append, Url.fieldTexts_append, Url.fieldTexts_append,
    Url.fieldTexts_append, texts_textField, texts_textField, date, date, box, filters]

end JobQuery

namespace Client

/-- One request is made, for an address below the one that the client was given. Only a web server
can be asked. -/
def Asks {α : Type} (client : Client) (question : Question α) (base : Url) (path : List Char)
    (fields : List (List Char × List Char)) : Prop :=
  ∃ url : Url, question.address = .ok url ∧ url.IsBelow base path fields ∧
    ∀ (State : Type) (transport : Transport State) (state : State),
      (client.ask transport question state).2 =
        if canBeAsked base then
          (transport ⟨url, client.userAgent, client.authorization⟩ state).2
        else state

theorem ask_of_address {State α : Type} {client : Client} {question : Question α} {url : Url}
    (asked : question.address = .ok url) (unmarked : url.fragment = none)
    (transport : Transport State) (state : State) :
    (client.ask transport question state).2 =
      if canBeAsked url then (transport ⟨url, client.userAgent, client.authorization⟩ state).2
      else state := by
  have whole : url.withoutFragment = url := by rw [Url.withoutFragment, ← unmarked]
  rw [ask, asked]
  simp only [request, whole]
  split <;> rfl

/-- A client of the server at an address that is made of segments. -/
structure IsAt (client : Client) (base : Url) (names : List (List Char)) : Prop where
  base_eq : client.base = base.asDirectory
  path : base.path = .segments names
  isDirectory : client.base.IsDirectory (Url.directory names)
  noSlash : ∀ name ∈ names, '/' ∉ name

theorem isAt_of_connect {baseUrl userAgent : String} {token : Option String} {client : Client}
    {base : Url} {names : List (List Char)}
    (connected : connect baseUrl token userAgent = .ok client)
    (read : Url.read? baseUrl.toList = some base) (path : base.path = .segments names) :
    client.IsAt base names := by
  have same : client.base = base.asDirectory := by
    simp only [connect, readBase, read] at connected
    cases authorized : authorize token with
    | error fault =>
        rw [authorized] at connected
        cases connected
    | ok authorization =>
        rw [authorized] at connected
        cases connected
        rfl
  exact ⟨same, path, same ▸ Url.isDirectory_asDirectory read path,
    (Url.isPath_read? read path).noSlash⟩

/-! The paths at which questions are asked. -/

/-- One name behind the one that all questions share. -/
structure IsEndpoint (path : String) (name : List Char) : Prop where
  path_eq : path.toList = "api".toList ++ '/' :: name
  one : ∀ special file, Url.IsOneSegment special file name
  kept : ∀ file, Url.segment file name = name

def endpoints : List (String × String) :=
  [("api/jobs", "jobs"), ("api/runs", "runs"), ("api/rerun", "rerun"),
    ("api/cancel_run", "cancel_run"), ("api/regions", "regions")]

theorem isEndpoint_of_mem {path name : String} (member : (path, name) ∈ endpoints) :
    IsEndpoint path name.toList := by
  have all : ∀ endpoint ∈ endpoints,
      endpoint.1.toList = "api".toList ++ '/' :: endpoint.2.toList ∧
        (∀ special file, Url.IsOneSegment special file endpoint.2.toList) ∧
          ∀ file, Url.segment file endpoint.2.toList = endpoint.2.toList := by
    decide
  rcases all _ member with ⟨path_eq, one, kept⟩
  exact ⟨path_eq, one, kept⟩

theorem isLead_api : Url.IsLead "api".toList := by
  exact ⟨by decide, by decide, by decide⟩

section

variable {client : Client} {base : Url} {names : List (List Char)} (isAt : client.IsAt base names)
include isAt

theorem isBelow_atPath {added : List (List Char)} {path : List Char}
    (text : (UrlPath.segments added).text = '/' :: path) (fields : List (String × List Char)) :
    ((base.atPath (Url.directory names ++ added)).withFields fields).IsBelow base path
      (Url.fieldTexts fields) := by
  have onlyQuery := Url.withFields_eq (base.atPath (Url.directory names ++ added)) fields
  have bare : (base.atPath (Url.directory names ++ added)).query = none := rfl
  have query := Url.query_withFields bare fields
  constructor
  · rw [onlyQuery]
    rfl
  · have slash : Url.withEndingSlash base.path.text =
        (UrlPath.segments (Url.directory names)).text ++ ['/'] := by
      rw [isAt.path, Url.withEndingSlash_text isAt.noSlash]
    rw [onlyQuery, Url.atPath, Url.text_append, text, slash, List.append_assoc,
      List.singleton_append]
  · rw [onlyQuery]
    rfl
  · rw [query.1, Url.fieldTexts, List.map_eq_nil_iff]
  · exact query.2

theorem asks_atPath {α : Type} {question : Question α} {added : List (List Char)}
    {path : List Char} (text : (UrlPath.segments added).text = '/' :: path)
    {fields : List (String × List Char)}
    (asked : question.address =
      .ok ((base.atPath (Url.directory names ++ added)).withFields fields)) :
    client.Asks question base path (Url.fieldTexts fields) := by
  have below := isBelow_atPath isAt text fields
  refine ⟨_, asked, below, ?_⟩
  intro State transport state
  have scheme := congrArg Url.scheme below.server
  rw [ask_of_address asked below.fragment, canBeAsked, canBeAsked, scheme]

theorem address_endpoint {path : String} {name : List Char} (endpoint : IsEndpoint path name) :
    client.address path =
      .ok (base.atPath (Url.directory names ++ ["api".toList, name])) := by
  have joined := Url.join?_segment isAt.isDirectory isLead_api (endpoint.one _ _)
  rw [address, endpoint.path_eq, joined, endpoint.kept, isAt.base_eq, List.append_assoc]
  rfl

theorem path_addressWith {path : String} {name : List Char} (endpoint : IsEndpoint path name)
    {fields : List (String × List Char)} {url : Url}
    (asked : client.addressWith path fields = .ok url) :
    url.path = .segments (Url.directory names ++ ["api".toList, name]) := by
  rw [addressWith, address_endpoint isAt endpoint] at asked
  cases asked
  exact congrArg Url.path (Url.withFields_eq _ fields)

theorem asks_endpoint {α : Type} {question : Question α} {path : String} {name : List Char}
    (endpoint : IsEndpoint path name) {fields : List (String × List Char)}
    (asked : question.address = client.addressWith path fields) :
    client.Asks question base path.toList (Url.fieldTexts fields) := by
  have text : (UrlPath.segments ["api".toList, name]).text = '/' :: path.toList := by
    simp [UrlPath.text, endpoint.path_eq]
  rw [addressWith, address_endpoint isAt endpoint] at asked
  exact asks_atPath isAt text asked

end

/-- Fields of questions reach the server as they are, whatever characters are in them. -/
theorem fields_survive {baseUrl userAgent : String} {token : Option String} {client : Client}
    {base : Url} {names : List (List Char)}
    (connected : connect baseUrl token userAgent = .ok client)
    (read : Url.read? baseUrl.toList = some base) (path : base.path = .segments names) :
    (∀ query : JobQuery, client.Asks (client.jobs query) base "api/jobs".toList query.filters) ∧
      (∀ (job : String) (status : Option RunStatus),
        client.Asks (client.runs job status) base "api/runs".toList
          (("job_uid".toList, job.toList) ::
            status.toList.map fun status => ("status".toList, status.text.toList))) ∧
      (∀ job : String,
        client.Asks (client.rerun job) base "api/rerun".toList [("job_uid".toList, job.toList)]) ∧
      ∀ run : String,
        client.Asks (client.cancelRun run) base "api/cancel_run".toList
          [("run_uid".toList, run.toList)] := by
  have isAt := isAt_of_connect connected read path
  refine ⟨fun query => ?_, fun job status => ?_, fun job => ?_, fun run => ?_⟩
  · rw [← query.texts_fields]
    exact asks_endpoint isAt (@isEndpoint_of_mem "api/jobs" "jobs" (by decide)) rfl
  · have asked : (client.runs job status).address = client.addressWith "api/runs"
        (("job_uid", job.toList) ::
          status.toList.map fun status => ("status", status.text.toList)) := rfl
    have texts := asks_endpoint isAt (@isEndpoint_of_mem "api/runs" "runs" (by decide)) asked
    cases status <;> exact texts
  · have asked : (client.rerun job).address =
        client.addressWith "api/rerun" [("job_uid", job.toList)] := rfl
    exact asks_endpoint isAt (@isEndpoint_of_mem "api/rerun" "rerun" (by decide)) asked
  · have asked : (client.cancelRun run).address =
        client.addressWith "api/cancel_run" [("run_uid", run.toList)] := rfl
    exact asks_endpoint isAt (@isEndpoint_of_mem "api/cancel_run" "cancel_run" (by decide)) asked

theorem fields_survive_of_odd_uid :
    ∃ (client : Client) (base : Url) (names : List (List Char)),
      connect "http://exports.test/x?y=z" none "agent" = .ok client ∧
        Url.read? "http://exports.test/x?y=z".toList = some base ∧ base.path = .segments names ∧
          client.Asks (client.rerun "a&b=c+%é #?") base "api/rerun".toList
            [("job_uid".toList, "a&b=c+%é #?".toList)] := by
  let base : Url :=
    { scheme := "http".toList, username := [], password := [], host := some "exports.test".toList
      port := none, path := .segments [['x']], query := some "y=z".toList, fragment := none }
  have read : Url.read? "http://exports.test/x?y=z".toList = some base := by decide +kernel
  have connected : connect "http://exports.test/x?y=z" none "agent" =
      .ok ⟨base.asDirectory, "agent", none⟩ := by
    rw [connect, readBase, read]
    rfl
  exact ⟨_, base, _, connected, read, rfl, (fields_survive connected read rfl).2.2.1 _⟩

end Client

end ExportWatch
