import ExportWatch.Proofs.Outcome
import ExportWatch.Proofs.Program.Output

/-! Searching jobs. Each page is asked for where the page before it says, and the links may lead
back to pages that were there before: the search ends because pages are counted. -/

namespace ExportWatch

variable {State : Type}

/-- The exchanges for requests that are sent one after the other. -/
def Transport.sendAll (transport : Transport State) :
    List HttpRequest → State → List Exchange × State
  | [], state => ([], state)
  | request :: others, state =>
      let (exchange, next) := transport request state
      let (exchanges, last) := sendAll transport others next
      (exchange :: exchanges, last)

theorem Transport.sendAll_concat (transport : Transport State) (requests : List HttpRequest)
    (last : HttpRequest) (state : State) :
    transport.sendAll (requests ++ [last]) state =
      let (exchanges, reached) := transport.sendAll requests state
      let (exchange, next) := transport last reached
      (exchanges ++ [exchange], next) := by
  induction requests generalizing state with
  | nil => rfl
  | cons head tail induction => simp only [List.cons_append, sendAll, induction]

/-! Pages. -/

def JobPage.shown (json : Bool) (page : JobPage) : Output where
  results :=
    if json then [.document (Job.encodeAll page.jobs)]
    else page.jobs.map fun job => .text job.line
  notices := ((page.range.bind PageRange.describe?).map String.ofList).toList

/-- A page that was asked for, and what came back. -/
structure PageFetch where
  url : Url
  exchange : Exchange

namespace PageFetch

variable {fetch : PageFetch} {page : JobPage}

def read (fetch : PageFetch) : Except ClientFault JobPage :=
  (Client.jobsPage fetch.url).readExchange fetch.url fetch.exchange.response

def shown (json : Bool) (fetch : PageFetch) : Output :=
  match fetch.read with
  | .ok page => page.shown json
  | .error _ => .empty

def links (fetch : PageFetch) : List Link :=
  fetch.exchange.response.toList.flatMap fun response =>
    (response.texts "link").flatMap Link.readAll

/-- Where a link to a next page leads. -/
def target? (fetch : PageFetch) (link : Link) : Option Url :=
  if link.relation = "next".toList then fetch.url.join? link.target else none

/-- Of the links to a next page that lead anywhere, the last counts. -/
inductive LeadsTo (fetch : PageFetch) : Option Url → Prop
  | next {before after : List Link} {link : Link} {url : Url} :
      fetch.links = before ++ link :: after → fetch.target? link = some url →
      (∀ later ∈ after, fetch.target? later = none) → LeadsTo fetch (some url)
  | nowhere : (∀ link ∈ fetch.links, fetch.target? link = none) → LeadsTo fetch none

theorem leadsTo_iff {next : Option Url} :
    fetch.LeadsTo next ↔ (fetch.links.filterMap fetch.target?).getLast? = next := by
  rw [List.getLast?_filterMap]
  constructor
  · intro leads
    cases leads with
    | @next before after link url split leads last =>
        refine List.findSome?_eq_some_iff.mpr
          ⟨after.reverse, link, before.reverse, ?_, leads, ?_⟩
        · simp [split]
        · simpa using last
    | nowhere leads => exact List.findSome?_eq_none_iff.mpr (by simpa using leads)
  · rintro rfl
    cases found : fetch.links.reverse.findSome? fetch.target? with
    | none => exact .nowhere (by simpa using List.findSome?_eq_none_iff.mp found)
    | some url =>
        rcases List.findSome?_eq_some_iff.mp found with ⟨after, link, before, split, leads, last⟩
        have whole : fetch.links = before.reverse ++ link :: after.reverse := by
          simpa using congrArg List.reverse split
        exact .next whole leads (by simpa using last)

theorem LeadsTo.unique {first second : Option Url} (leads : fetch.LeadsTo first)
    (leadsToo : fetch.LeadsTo second) : first = second :=
  (leadsTo_iff.mp leads).symm.trans (leadsTo_iff.mp leadsToo)

theorem linked_next (url : Url) (links : List Link) :
    JobPage.linked url links ["next"] = (links.filterMap fun link =>
      if link.relation = "next".toList then url.join? link.target else none).getLast? := by
  have named (relation : List Char) :
      (["next"].contains (String.ofList relation) = true) = (relation = "next".toList) := by
    rw [List.contains_cons]
    simp [← String.toList_inj]
  simp only [JobPage.linked, List.filterMap_filter, named]

theorem leadsTo_next (read : fetch.read = .ok page) : fetch.LeadsTo page.next := by
  rw [leadsTo_iff]
  unfold PageFetch.read Question.readExchange at read
  unfold links
  cases response : fetch.exchange.response with
  | none => simp [response] at read
  | some response =>
      simp only [response] at read
      split at read
      · rcases bind_eq_ok_iff.mp read with ⟨jobs, -, given⟩
        cases given
        rw [linked_next, Option.toList_some, List.flatMap_singleton]
        rfl
      · cases read

end PageFetch

/-! How a search goes. -/

section Course

variable (client : Client) (query : JobQuery)

/-- Where the page after those that were fetched is. -/
inductive Due : List PageFetch → Except ClientFault Url → Prop
  | first : Due [] (client.jobs query).address
  | next {before : List PageFetch} {last : PageFetch} {page : JobPage} {url : Url} :
      last.read = .ok page → last.LeadsTo (some url) → Due (before ++ [last]) (.ok url)

/-- Each page was asked for where it was due, and nothing else was asked for. -/
structure Fetches (transport : Transport State) (start : State) (fetches : List PageFetch)
    (reached : State) : Prop where
  sent : transport.sendAll (fetches.map fun fetch => client.request fetch.url) start =
    (fetches.map (·.exchange), reached)
  due : ∀ before fetch after, fetches = before ++ fetch :: after →
    Due client query before (.ok fetch.url)

/-- A request that cannot be sent. -/
inductive Unsent : Except ClientFault Url → ClientFault → Prop
  | noAddress (fault : ClientFault) : Unsent (.error fault) fault
  | notAsked {url : Url} : Client.canBeAsked url = false → Unsent (.ok url) (.unanswered url)

inductive SearchEnd where
  | complete
  | limited (next : Url)
  | failed (fault : ClientFault)

namespace SearchEnd

def outcome : SearchEnd → Except CommandFault Unit
  | failed fault => .error (.server fault)
  | _ => .ok ()

def shown : SearchEnd → Output
  | limited next => ⟨[], ["More results: " ++ next.text]⟩
  | _ => .empty

end SearchEnd

/-- Why nothing is asked for any more. -/
inductive SearchEnds (limit : Nat) (fetches : List PageFetch) : SearchEnd → Prop
  | complete {before : List PageFetch} {last : PageFetch} {page : JobPage} :
      fetches = before ++ [last] → last.read = .ok page → last.LeadsTo none →
      SearchEnds limit fetches .complete
  | limited {next : Url} :
      fetches.length = limit → Due client query fetches (.ok next) →
      SearchEnds limit fetches (.limited next)
  | refused {before : List PageFetch} {last : PageFetch} {fault : ClientFault} :
      fetches = before ++ [last] → last.read = .error fault →
      SearchEnds limit fetches (.failed fault)
  | unsent {address : Except ClientFault Url} {fault : ClientFault} :
      fetches.length < limit → Due client query fetches address → Unsent address fault →
      SearchEnds limit fetches (.failed fault)

end Course

section Search

variable {client : Client} {query : JobQuery} {transport : Transport State} {start reached : State}
  {fetches : List PageFetch}

theorem Fetches.none : Fetches client query transport start [] start where
  sent := rfl
  due := by simp

theorem Fetches.next {url : Url} (fetched : Fetches client query transport start fetches reached)
    (due : Due client query fetches (.ok url)) :
    Fetches client query transport start
      (fetches ++ [⟨url, (transport (client.request url) reached).1⟩])
      (transport (client.request url) reached).2 where
  sent := by
    rw [List.map_append, List.map_singleton, Transport.sendAll_concat, fetched.sent,
      List.map_append, List.map_singleton]
  due := by
    intro before fetch after split
    rcases List.eq_nil_or_concat after with rfl | ⟨others, last, rfl⟩
    · rcases List.append_inj' split rfl with ⟨rfl, same⟩
      cases same
      exact due
    · rw [List.concat_eq_append, ← List.cons_append, ← List.append_assoc] at split
      exact fetched.due before fetch others (List.append_inj' split rfl).1

namespace Act

/-- Asking for the page that is due. -/
theorem tells_ask_due {question : Question JobPage} (reads : question.read = JobPage.read)
    (fetched : Fetches client query transport start fetches reached)
    (due : Due client query fetches question.address) {scene : Scene State}
    (here : scene.server = reached) :
    (∃ fault, Unsent question.address fault ∧
        Tells (ask client transport question) scene (.error (.server fault)) scene.server
          scene.files .empty) ∨
      ∃ fetch server, Fetches client query transport start (fetches ++ [fetch]) server ∧
        Tells (ask client transport question) scene (fetch.read.mapError .server) server
          scene.files .empty := by
  subst here
  have asking := tells_ask scene client transport question
  unfold Client.ask at asking
  cases address : question.address with
  | error fault =>
      left
      simp only [address] at asking
      exact ⟨fault, .noAddress fault, asking⟩
  | ok url =>
      rw [address] at due
      simp only [address] at asking
      cases askable : Client.canBeAsked url with
      | false =>
          left
          simp only [askable] at asking
          exact ⟨_, .notAsked askable, asking⟩
      | true =>
          right
          refine ⟨_, _, fetched.next due, ?_⟩
          have sameReading : question.readExchange = (Client.jobsPage url).readExchange := by
            funext asked response
            simp only [Question.readExchange, reads]
            rfl
          simp only [askable, sameReading, if_true] at asking
          exact asking

theorem adds_showPage (json : Bool) (page : JobPage) :
    Adds (showPage json page : Act State Unit) (page.shown json) := by
  have jobs : Adds (showJobs json page.jobs : Act State Unit)
      ⟨(page.shown json).results, []⟩ := by
    cases json with
    | true => exact adds_display _
    | false =>
        have printed : Adds (printAll (page.jobs.map (·.line)) : Act State Unit) _ :=
          adds_printAll _
        rw [List.map_map] at printed
        exact printed
  have shown := jobs.bind (adds_notifyAll (page.shown json).notices)
  rw [Output.mk_append_mk] at shown
  exact shown

/-- The act goes on with a search, and shows what is on the pages that it gets. -/
def Searches (json : Bool) (client : Client) (query : JobQuery) (transport : Transport State)
    (start : State) (limit : Nat) (before : List PageFetch) (act : Act State Unit)
    (scene : Scene State) : Prop :=
  ∃ fetches ended server,
    Fetches client query transport start (before ++ fetches) server ∧
      (before ++ fetches).length ≤ limit ∧
      SearchEnds client query limit (before ++ fetches) ended ∧
      Tells act scene ended.outcome server scene.files
        (.joined (fetches.map (·.shown json)) ++ ended.shown)

variable {json : Bool} {limit : Nat} {before : List PageFetch} {last : PageFetch} {page : JobPage}
  {scene : Scene State}

theorem searches_end {act : Act State Unit} {ended : SearchEnd}
    (fetched : Fetches client query transport start before scene.server)
    (bounded : before.length ≤ limit) (ends : SearchEnds client query limit before ended)
    (tells : Tells act scene ended.outcome scene.server scene.files ended.shown) :
    Searches json client query transport start limit before act scene := by
  refine ⟨[], ended, scene.server, ?_, ?_, ?_, tells⟩ <;> rw [List.append_nil] <;> assumption

theorem searches_showPage {rest : Act State Unit} (read : last.read = .ok page)
    (searches : ∀ output, Searches json client query transport start limit (before ++ [last]) rest
      ⟨scene.server, scene.files, output⟩) :
    Searches json client query transport start limit before
      (showPage json page >>= fun _ => rest) scene := by
  have shown : last.shown json = page.shown json := by rw [PageFetch.shown, read]
  have showing := adds_showPage json page scene
  rcases searches (scene.output ++ page.shown json) with ⟨fetches, ended, server, searched⟩
  rw [List.append_assoc, List.singleton_append] at searched
  rcases searched with ⟨fetched, bounded, ends, tells⟩
  refine ⟨last :: fetches, ended, server, fetched, bounded, ends, ?_⟩
  rw [List.map_cons, Output.joined_cons, shown, Output.append_assoc, Tells, perform_bind, showing,
    ← Output.append_assoc]
  exact tells

theorem searches_ask {question : Question JobPage} {next : JobPage → Act State Unit}
    (reads : question.read = JobPage.read)
    (fetched : Fetches client query transport start before scene.server)
    (due : Due client query before question.address) (room : before.length < limit)
    (searches : ∀ fetch page server output,
      Fetches client query transport start (before ++ [fetch]) server → fetch.read = .ok page →
      Searches json client query transport start limit before (next page)
        ⟨server, scene.files, output⟩) :
    Searches json client query transport start limit before
      (ask client transport question >>= next) scene := by
  rcases tells_ask_due reads fetched due rfl with
    ⟨fault, unsent, asked⟩ | ⟨fetch, server, fetchedToo, asked⟩
  · exact searches_end fetched (Nat.le_of_lt room) (.unsent room due unsent) (asked.bind_error next)
  · cases read : fetch.read with
    | error fault =>
        rw [read] at asked
        have shown : fetch.shown json = .empty := by rw [PageFetch.shown, read]
        refine ⟨[fetch], .failed fault, server, fetchedToo, ?_, .refused rfl read, ?_⟩
        · simpa using Nat.succ_le_of_lt room
        · rw [List.map_singleton, shown]
          exact asked.bind_error next
    | ok page =>
        rw [read] at asked
        rcases searches fetch page server scene.output fetchedToo read with
          ⟨fetches, ended, lastServer, fetchedAll, bounded, ends, tells⟩
        refine ⟨fetches, ended, lastServer, fetchedAll, bounded, ends, ?_⟩
        rw [Tells, perform_bind, asked, Output.append_empty]
        exact tells

/-- After a page that was fetched, at most so many more are. -/
theorem searches_showPages {more : Nat}
    (fetched : Fetches client query transport start (before ++ [last]) scene.server)
    (read : last.read = .ok page) (counted : before.length + 1 + more = limit) :
    Searches json client query transport start limit before
      (showPages json client transport more page) scene := by
  have leads := PageFetch.leadsTo_next read
  have bounded : (before ++ [last]).length ≤ limit := by
    rw [List.length_append, List.length_singleton]
    omega
  induction more generalizing before last page scene with
  | zero =>
      unfold showPages
      refine searches_showPage read fun output => ?_
      cases next : page.next with
      | none =>
          rw [next] at leads
          exact searches_end fetched bounded (.complete rfl read leads) (tells_pure _ ())
      | some url =>
          rw [next] at leads
          refine searches_end fetched bounded (.limited ?_ (.next read leads)) (adds_notify _ _)
          simpa using counted
  | succ more induction =>
      unfold showPages
      refine searches_showPage read fun output => ?_
      cases next : page.next with
      | none =>
          rw [next] at leads
          exact searches_end fetched bounded (.complete rfl read leads) (tells_pure _ ())
      | some url =>
          rw [next] at leads
          refine searches_ask rfl fetched (.next read leads) ?_ ?_
          · rw [List.length_append, List.length_singleton]
            omega
          · intro fetch page server output fetchedToo readToo
            refine induction fetchedToo readToo ?_ (PageFetch.leadsTo_next readToo) ?_
            · rw [List.length_append, List.length_singleton]
              omega
            · simp only [List.length_append, List.length_singleton]
              omega

theorem searches_searchJobs (json : Bool) (client : Client) (transport : Transport State)
    (query : JobQuery) (pages : Nat) (scene : Scene State) :
    Searches json client query transport scene.server (max 1 pages) []
      (searchJobs json client transport query pages) scene := by
  refine searches_ask rfl Fetches.none .first (Nat.le_max_left 1 pages) ?_
  intro fetch page server output fetched read
  refine searches_showPages fetched read ?_
  rw [List.length_nil]
  omega

end Act

end Search

namespace Act

/-! The number of pages is a word of 32 bits, and so is the count of those that were shown. It
never wraps around, for it stays below another word. -/

end Act

/-- A page that links to itself is shown as often as it may be asked for. -/
example :
    let page : Exchange :=
      ⟨some ⟨⟨200⟩, [("link", "<?page=1>; rel=next")],
        "[\x7b\"uid\":\"1\",\"name\":\"Roads\"\x7d]"⟩, ⟨0⟩, 0⟩
    ((Client.connect "http://a.test" none "test").toOption.map fun client =>
        let scene := ((Act.searchJobs false client ScriptedServer.transport
          ⟨none, none, none, none, none⟩ 2).perform ⟨⟨[page, page, page], []⟩, .empty [], .empty⟩).2
        (scene.server.requests.length, scene.output.resultText, scene.output.noticeText)) =
      some (2, "1  --  Roads\n1  --  Roads\n",
        "More results: http://a.test/api/jobs?page=1\n") := by
  decide +kernel

end ExportWatch
