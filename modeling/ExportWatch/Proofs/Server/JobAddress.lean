import ExportWatch.Proofs.Server.Address
import ExportWatch.Proofs.Url.LastSegment

/-! The address of a job. The uid goes into the path as it is, so it is read as part of a
reference there, and only some uids lead to their jobs. -/

namespace ExportWatch.Client

open Text

/-- One request is made, for an address without a query that ends in one segment, and the segment
stands for the uid. -/
def AsksForJob (client : Client) (base : Url) (uid : String) : Prop :=
  ∃ segment : List Char, '/' ∉ segment ∧ Host.decoded? segment = some uid.toList ∧
    client.Asks (client.job uid) base ("api/jobs/".toList ++ segment) []

/-- Uids that are one segment behind the address of the server. -/
def IsPlainUid (base : Url) (uid : String) : Prop :=
  Url.IsOneSegment (Url.isSpecialScheme base.scheme) (Url.isFileScheme base.scheme) uid.toList

instance (base : Url) (uid : String) : Decidable (IsPlainUid base uid) :=
  inferInstanceAs (Decidable (Url.IsOneSegment _ _ _))

theorem isLead_jobs : Url.IsLead "api/jobs".toList :=
  ⟨by decide, by decide, by decide⟩

theorem parts_jobs : parts '/' "api/jobs".toList = ["api".toList, "jobs".toList] := by
  decide

theorem toList_jobs (uid : String) :
    ("api/jobs/" ++ uid).toList = "api/jobs".toList ++ '/' :: uid.toList := by
  simp

section

variable {client : Client} {base : Url} {names : List (List Char)} (isAt : client.IsAt base names)
include isAt

theorem scheme_eq : client.base.scheme = base.scheme := by
  rw [isAt.base_eq]
  rfl

theorem job_address {uid : String} (plain : IsPlainUid base uid) :
    (client.job uid).address =
      .ok (base.atPath (Url.directory names ++
        ["api".toList, "jobs".toList, Url.segment (Url.isFileScheme base.scheme) uid.toList])) := by
  have scheme := scheme_eq isAt
  have one : Url.IsOneSegment (Url.isSpecialScheme client.base.scheme)
      (Url.isFileScheme client.base.scheme) uid.toList := by
    rw [scheme]
    exact plain
  have joined := Url.join?_segment isAt.isDirectory isLead_jobs one
  rw [job, address, toList_jobs, joined, parts_jobs, scheme, isAt.base_eq, List.append_assoc]
  rfl

theorem asksForJob_of_plain {uid : String} (plain : IsPlainUid base uid) :
    client.AsksForJob base uid := by
  refine ⟨_, Url.noSlash_segment plain.noSlash, plain.decoded?_segment, ?_⟩
  have text : (UrlPath.segments ["api".toList, "jobs".toList,
      Url.segment (Url.isFileScheme base.scheme) uid.toList]).text =
        '/' :: ("api/jobs/".toList ++
          Url.segment (Url.isFileScheme base.scheme) uid.toList) := by
    simp [UrlPath.text]
  have asked : (client.job uid).address = .ok ((base.atPath (Url.directory names ++
      ["api".toList, "jobs".toList,
        Url.segment (Url.isFileScheme base.scheme) uid.toList])).withFields []) :=
    job_address isAt plain
  exact asks_atPath isAt text asked

theorem plain_of_asksForJob {uid : String} (asks : client.AsksForJob base uid) :
    IsPlainUid base uid := by
  rcases asks with ⟨segment, bare, decoded, url, asked, below, -⟩
  have joined : client.base.join? ("api/jobs".toList ++ '/' :: uid.toList) = some url := by
    rw [job, address, toList_jobs] at asked
    split at asked
    · next found => cases asked; exact found
    · cases asked
  have noSlash : ∀ name ∈ Url.directory names, '/' ∉ name :=
    fun name member => isAt.noSlash name (Url.directory_subset names member)
  have path : url.path.text =
      (Url.withEndingSlash base.path.text ++ "api/jobs".toList) ++ '/' :: segment := by
    rw [below.path]
    simp
  have one := Url.isOneSegment_of_join isAt.isDirectory noSlash isLead_jobs joined bare path decoded
  rwa [scheme_eq isAt] at one

end

/-- Exactly the uids that are one segment lead to their jobs; no two of them share an address, and
none of them has the address of another question. -/
theorem asksForJob_iff {baseUrl userAgent : String} {token : Option String} {client : Client}
    {base : Url} {names : List (List Char)}
    (connected : connect baseUrl token userAgent = .ok client)
    (read : Url.read? baseUrl.toList = some base) (path : base.path = .segments names) :
    (∀ uid : String, client.AsksForJob base uid ↔ IsPlainUid base uid) ∧
      (∀ first second : String, IsPlainUid base first → IsPlainUid base second →
        (client.job first).address = (client.job second).address → first = second) ∧
      ∀ uid : String, IsPlainUid base uid →
        ∀ endpoint ∈ endpoints, ∀ fields : List (String × List Char),
          client.addressWith endpoint.1 fields ≠ (client.job uid).address := by
  have isAt := isAt_of_connect connected read path
  refine ⟨fun uid => ⟨plain_of_asksForJob isAt, asksForJob_of_plain isAt⟩, ?_, ?_⟩
  · intro first second firstPlain secondPlain same
    rw [job_address isAt firstPlain, job_address isAt secondPlain] at same
    have paths := UrlPath.segments.inj (congrArg Url.path (Except.ok.inj same))
    have segments : Url.segment (Url.isFileScheme base.scheme) first.toList =
        Url.segment (Url.isFileScheme base.scheme) second.toList := by
      simpa using List.append_cancel_left paths
    have decoded := firstPlain.decoded?_segment
    rw [segments, secondPlain.decoded?_segment] at decoded
    exact String.toList_injective (Option.some.inj decoded).symm
  · intro uid plain endpoint member fields same
    have paths := path_addressWith isAt (isEndpoint_of_mem member)
      (same.trans (job_address isAt plain))
    have lengths := congrArg List.length (UrlPath.segments.inj paths)
    simp at lengths

theorem asksForJob_iff_on_server :
    ∃ (client : Client) (base : Url) (names : List (List Char)),
      connect "http://exports.test/x?y=z" none "agent" = .ok client ∧
        Url.read? "http://exports.test/x?y=z".toList = some base ∧ base.path = .segments names ∧
          client.AsksForJob base "a b%é" ∧ ¬ client.AsksForJob base "a/b" := by
  let base : Url :=
    { scheme := "http".toList, username := [], password := [], host := some "exports.test".toList
      port := none, path := .segments [['x']], query := some "y=z".toList, fragment := none }
  have read : Url.read? "http://exports.test/x?y=z".toList = some base := by decide +kernel
  have connected : connect "http://exports.test/x?y=z" none "agent" =
      .ok ⟨base.asDirectory, "agent", none⟩ := by
    rw [connect, readBase, read]
    rfl
  have plain : IsPlainUid base "a b%é" ∧ ¬ IsPlainUid base "a/b" := by decide +kernel
  have asks := (asksForJob_iff connected read rfl).1
  exact ⟨_, base, _, connected, read, rfl, (asks _).mpr plain.1,
    fun other => plain.2 ((asks _).mp other)⟩

/-- Two points in a uid lead away from the jobs. -/
theorem job_asks_for_regions :
    ∃ client : Client, connect "http://exports.test" none "agent" = .ok client ∧
      (client.job "../regions").address = client.regions.address ∧
        client.regions.address.toOption.map Url.text = some "http://exports.test/api/regions" := by
  let base : Url :=
    { scheme := "http".toList, username := [], password := [], host := some "exports.test".toList
      port := none, path := .segments [[]], query := none, fragment := none }
  have read : Url.read? "http://exports.test".toList = some base := by decide +kernel
  have connected : connect "http://exports.test" none "agent" = .ok ⟨base, "agent", none⟩ := by
    rw [connect, readBase, read]
    rfl
  exact ⟨_, connected, by decide +kernel, by decide +kernel⟩

end ExportWatch.Client
