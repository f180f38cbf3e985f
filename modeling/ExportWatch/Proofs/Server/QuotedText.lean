import ExportWatch.Proofs.Server.LinkHeader
import ExportWatch.Server.Client

/-! How far the text between the quotes of a parameter counts when a Link header is read. Quotes
are not looked at when a header is cut into entries and parameters: a semicolon or an opening
bracket in a quoted text ends the parameter, and what stands behind it is read as parameters and
entries of their own. The text in front of it does not matter. -/

namespace ExportWatch.LinkHeader

open Text

/-- Within quotes a backslash stands in front of a quote or another backslash. -/
def isQuotedText : List Char → Bool
  | [] => true
  | '\\' :: _ :: rest => isQuotedText rest
  | head :: rest => head ≠ '"' && head ≠ '\\' && isQuotedText rest

def IsQuotedText (text : List Char) : Prop :=
  isQuotedText text = true

instance (text : List Char) : Decidable (IsQuotedText text) :=
  inferInstanceAs (Decidable (_ = _))

example : IsQuotedText "say \\\"no\\\"".toList ∧ ¬ IsQuotedText "say \"no\"".toList := by decide

/-- What stands from the first semicolon or opening bracket on. -/
def fromMark (text : List Char) : List Char :=
  text.dropWhile fun character => character ≠ ';' && character ≠ '<'

theorem exists_eq_append_fromMark (text : List Char) :
    ∃ plain, text = plain ++ fromMark text ∧ ';' ∉ plain ∧ '<' ∉ plain := by
  refine ⟨_, List.takeWhile_append_dropWhile.symm, ?_, ?_⟩
  · intro member
    exact absurd (List.mem_takeWhile_imp member) (by decide)
  · intro member
    exact absurd (List.mem_takeWhile_imp member) (by decide)

/-! Where a header is cut. -/

theorem readAll_unclosed {lead target : List Char} (bareLead : '<' ∉ lead)
    (bareTarget : '>' ∉ target) : Link.readAll (lead ++ '<' :: target) = [] := by
  rw [Link.readAll]
  split
  · rfl
  · next opened =>
      rw [cutAt_append bareLead] at opened
      cases opened
      split
      · rfl
      · next closed =>
          rw [cutAt_of_not_mem bareTarget] at closed
          cases closed

theorem readAll_append {lead : List Char} (bare : '<' ∉ lead) (text : List Char) :
    Link.readAll (lead ++ text) = Link.readAll text := by
  by_cases opened : '<' ∈ text
  · rcases List.eq_append_cons_of_mem opened with ⟨before, rest, rfl, bareBefore⟩
    have bareBoth : '<' ∉ lead ++ before := List.not_mem_append bare bareBefore
    rw [← List.append_assoc]
    by_cases closed : '>' ∈ rest
    · rcases List.eq_append_cons_of_mem closed with ⟨target, others, rfl, bareTarget⟩
      rw [readAll_entry bareBoth bareTarget, readAll_entry bareBefore bareTarget]
    · rw [readAll_unclosed bareBoth closed, readAll_unclosed bareBefore closed]
  · have bareBoth : '<' ∉ lead ++ text := List.not_mem_append bare opened
    rw [readAll_of_not_mem bareBoth, readAll_of_not_mem opened]

/-- Every bracket that is opened in a text is closed there. -/
inductive IsClosed : List Char → Prop
  | plain {text : List Char} : '<' ∉ text → IsClosed text
  | entry {lead target rest : List Char} :
      '<' ∉ lead → '>' ∉ target → IsClosed rest → IsClosed (lead ++ '<' :: (target ++ '>' :: rest))

theorem IsClosed.prepend {lead text : List Char} (bare : '<' ∉ lead) (closed : IsClosed text) :
    IsClosed (lead ++ text) := by
  cases closed with
  | plain bareToo => exact .plain (List.not_mem_append bare bareToo)
  | @entry before target rest bareBefore bareTarget closed =>
      rw [← List.append_assoc]
      exact .entry (List.not_mem_append bare bareBefore) bareTarget closed

theorem IsClosed.append {first second : List Char} (closed : IsClosed first)
    (closedToo : IsClosed second) : IsClosed (first ++ second) := by
  induction closed with
  | plain bare => exact closedToo.prepend bare
  | @entry lead target rest bareLead bareTarget _ induction =>
      rw [List.append_assoc, List.cons_append, List.append_assoc, List.cons_append]
      exact .entry bareLead bareTarget induction

theorem IsClosed.dropWhile {drops : Char → Bool} {text : List Char} (kept : drops '<' = false)
    (closed : IsClosed text) : IsClosed (text.dropWhile drops) := by
  cases closed with
  | plain bare => exact .plain fun member => bare ((List.dropWhile_sublist drops).subset member)
  | @entry lead target rest bareLead bareTarget closed =>
      rw [dropWhile_append_cons kept]
      have bareDropped : '<' ∉ lead.dropWhile drops :=
        fun member => bareLead ((List.dropWhile_sublist drops).subset member)
      exact .entry bareDropped bareTarget closed

/-- Two texts read alike wherever they stand outside of brackets. -/
structure ReadAlike (first second : List Char) : Prop where
  parameters : ∀ target lead, Link.ofParameters target (lead ++ first.takeWhile (· ≠ '<')) =
    Link.ofParameters target (lead ++ second.takeWhile (· ≠ '<'))
  entries : Link.readAll first = Link.readAll second

theorem ReadAlike.behind {before first second : List Char} (alike : ReadAlike first second)
    (closed : IsClosed before) :
    Link.readAll (before ++ first) = Link.readAll (before ++ second) := by
  induction closed with
  | plain bare => rw [readAll_append bare, readAll_append bare, alike.entries]
  | @entry lead target rest bareLead bareTarget _ induction =>
      have shape (text : List Char) : lead ++ '<' :: (target ++ '>' :: rest) ++ text =
          lead ++ '<' :: (target ++ '>' :: (rest ++ text)) := by
        simp
      have parameters : Link.ofParameters target ((rest ++ first).takeWhile (· ≠ '<')) =
          Link.ofParameters target ((rest ++ second).takeWhile (· ≠ '<')) := by
        by_cases opened : '<' ∈ rest
        · rcases List.eq_append_cons_of_mem opened with ⟨front, others, rfl, bareFront⟩
          have cutShort (text : List Char) :
              (front ++ '<' :: others ++ text).takeWhile (· ≠ '<') = front := by
            rw [List.append_assoc, List.cons_append, takeWhile_opened bareFront]
          rw [cutShort, cutShort]
        · rw [takeWhile_append_unopened opened, takeWhile_append_unopened opened]
          exact alike.parameters target rest
      rw [shape, shape, readAll_entry bareLead bareTarget, readAll_entry bareLead bareTarget,
        parameters, induction]

/-! A parameter that names no relations. -/

section Parameter

variable {label plain : List Char}

theorem relations_parts_of_other (notInLabel : '=' ∉ label ∧ ';' ∉ label) (notInPlain : ';' ∉ plain)
    (other : Link.isRelationName label = false) (text : List Char) :
    (parts ';' (label ++ '=' :: (plain ++ text))).flatMap Link.relations =
      (parts ';' text).tail.flatMap Link.relations := by
  have bare : ';' ∉ label ++ '=' :: plain := by
    rw [List.mem_append, List.mem_cons, not_or, not_or]
    exact ⟨notInLabel.2, by decide, notInPlain⟩
  have shape : label ++ '=' :: (plain ++ text) = label ++ '=' :: plain ++ text := by simp
  cases cut : parts ';' text with
  | nil => exact absurd cut (parts_ne_nil ';' text)
  | cons part others =>
      have nothing : Link.relations (label ++ '=' :: plain ++ part) = [] := by
        rw [List.append_assoc, List.cons_append, Link.relations, cutAt_append notInLabel.1]
        simp [other]
      rw [shape, parts_append_left bare cut, List.flatMap_cons, nothing, List.nil_append,
        List.tail_cons]

/-- Only what stands behind the first marks of a value can have an effect. -/
theorem readAlike_of_plain (notInLabel : ∀ mark ∈ ['=', ';', '<'], mark ∉ label)
    (notInPlain : ';' ∉ plain ∧ '<' ∉ plain) (other : Link.isRelationName label = false)
    (text : List Char) :
    ReadAlike (';' :: (label ++ '=' :: (plain ++ text))) (';' :: (label ++ '=' :: text)) := by
  have bareLabel : '<' ∉ ';' :: (label ++ ['=']) := by
    simpa using notInLabel '<' (by simp)
  have bare : '<' ∉ ';' :: (label ++ '=' :: plain) := by
    simpa [notInPlain.2] using notInLabel '<' (by simp)
  have whole : ';' :: (label ++ '=' :: (plain ++ text)) =
      ';' :: (label ++ '=' :: plain) ++ text := by simp
  have rest : ';' :: (label ++ '=' :: text) = ';' :: (label ++ ['=']) ++ text := by simp
  constructor
  · intro target lead
    have apart : '=' ∉ label ∧ ';' ∉ label :=
      ⟨notInLabel '=' (by simp), notInLabel ';' (by simp)⟩
    have relations {plain : List Char} (bare : ';' ∉ plain) :=
      relations_parts_of_other apart bare other (text.takeWhile (· ≠ '<'))
    rw [whole, rest, takeWhile_append_unopened bare, takeWhile_append_unopened bareLabel,
      Link.ofParameters, Link.ofParameters, List.cons_append, List.cons_append, parts_append,
      parts_append, List.flatMap_append, List.flatMap_append, List.append_assoc, List.cons_append,
      List.append_assoc, List.singleton_append, relations notInPlain.1,
      ← relations List.not_mem_nil, List.nil_append]
  · rw [whole, rest, readAll_append bare, readAll_append bareLabel]

end Parameter

/-! A quoted text and what stands around it. -/

structure Setting where
  start : List Char
  label : List Char
  gap : List Char
  rest : List Char

namespace Setting

def fill (setting : Setting) (text : List Char) : List Char :=
  setting.start ++ ';' ::
    (setting.label ++ '=' :: (setting.gap ++ '"' :: (text ++ '"' :: setting.rest)))

/-- The text is the value of a parameter that names no relations, outside of brackets. -/
structure IsOther (setting : Setting) : Prop where
  closed : IsClosed setting.start
  label : ∀ mark ∈ ['=', ';', '<'], mark ∉ setting.label
  gap : ∀ mark ∈ [';', '<'], mark ∉ setting.gap
  other : Link.isRelationName setting.label = false

variable {setting : Setting}

theorem IsOther.readAll_fill (isOther : setting.IsOther) (text : List Char) :
    Link.readAll (setting.fill text) = Link.readAll (setting.fill (fromMark text)) := by
  rcases exists_eq_append_fromMark text with ⟨plain, shape, noSemicolon, noBracket⟩
  have whole : setting.fill text = setting.start ++ ';' :: (setting.label ++ '=' ::
      (setting.gap ++ '"' :: plain ++ (fromMark text ++ '"' :: setting.rest))) := by
    rw [fill]
    nth_rewrite 1 [shape]
    simp
  have short : setting.fill (fromMark text) = setting.start ++ ';' :: (setting.label ++ '=' ::
      (setting.gap ++ ['"'] ++ (fromMark text ++ '"' :: setting.rest))) := by
    simp [fill]
  have alike (plain : List Char) (noSemicolon : ';' ∉ plain) (noBracket : '<' ∉ plain) :=
    (readAlike_of_plain isOther.label ⟨noSemicolon, noBracket⟩ isOther.other
      (fromMark text ++ '"' :: setting.rest)).behind isOther.closed
  have inGap := isOther.gap
  rw [whole, short, alike, alike]
  · simpa using inGap ';' (by simp)
  · simpa using inGap '<' (by simp)
  · simpa [noSemicolon] using inGap ';' (by simp)
  · simpa [noBracket] using inGap '<' (by simp)

/-! Spaces at the ends of a header do not belong to it. -/

def trimmed (setting : Setting) : Setting where
  start := setting.start.dropWhile HttpResponse.isHeaderSpace
  label := setting.label
  gap := setting.gap
  rest := (setting.rest.reverse.dropWhile HttpResponse.isHeaderSpace).reverse

theorem withoutSpaces_fill (setting : Setting) (text : List Char) :
    HttpResponse.withoutSpaces (setting.fill text) = setting.trimmed.fill text := by
  have semicolon : HttpResponse.isHeaderSpace ';' = false := by decide
  have quote : HttpResponse.isHeaderSpace '"' = false := by decide
  have inner (start : List Char) :
      (start ++ ';' :: (setting.label ++ '=' :: (setting.gap ++ '"' ::
        (text ++ '"' :: setting.rest)))).reverse =
      setting.rest.reverse ++ '"' :: (start ++ ';' :: (setting.label ++ '=' ::
        (setting.gap ++ '"' :: text))).reverse := by
    simp
  rw [HttpResponse.withoutSpaces, fill, dropWhile_append_cons semicolon, inner,
    dropWhile_append_cons quote]
  simp [fill, trimmed]

theorem IsOther.trimmed (isOther : setting.IsOther) : setting.trimmed.IsOther where
  closed := isOther.closed.dropWhile (by decide)
  label := isOther.label
  gap := isOther.gap
  other := isOther.other

theorem isHeaderText_fill {first second : List Char}
    (same : HttpResponse.isHeaderText first = HttpResponse.isHeaderText second) :
    HttpResponse.isHeaderText (setting.fill first) =
      HttpResponse.isHeaderText (setting.fill second) := by
  simp only [HttpResponse.isHeaderText, fill, List.all_append, List.all_cons] at same ⊢
  rw [same]

end Setting

/-! A quoted text in a header that is written by the rules. -/

structure Place where
  earlier : List Entry
  target : Padded (List Char)
  front : List Parameter
  name : Padded (List Char)
  before : List Char
  after : List Char
  behind : List Parameter
  later : List Entry

namespace Place

def parameter (place : Place) (text : List Char) : Parameter where
  name := place.name
  value := some ⟨place.before, .quoted text, place.after⟩

def entry (place : Place) (text : List Char) : Entry where
  target := place.target
  parameters := place.front ++ place.parameter text :: place.behind

/-- The header with a text at its place. -/
def entries (place : Place) (text : List Char) : List Entry :=
  place.earlier ++ place.entry text :: place.later

/-- The parameters in front of the place. -/
def passed (place : Place) : List Parameter :=
  place.earlier.flatMap (·.parameters) ++ place.front

def setting (place : Place) : Setting where
  start := place.earlier.flatMap (fun entry => entry.write ++ [',']) ++ place.target.before ++
    '<' :: (place.target.inner ++ '>' :: (place.target.after ++ Entry.writeParameters place.front))
  label := place.name.write id
  gap := place.before
  rest := place.after ++ Entry.writeParameters place.behind ++
    place.later.flatMap fun entry => ',' :: entry.write

end Place

theorem write_cons (entry : Entry) (others : List Entry) :
    write (entry :: others) = entry.write ++ others.flatMap fun other => ',' :: other.write := by
  induction others generalizing entry with
  | nil => rw [write_singleton, List.flatMap_nil, List.append_nil]
  | cons next others induction =>
      rw [write_cons_cons, induction, List.flatMap_cons]
      rfl

theorem write_append_cons (earlier : List Entry) (entry : Entry) (later : List Entry) :
    write (earlier ++ entry :: later) =
      earlier.flatMap (fun entry => entry.write ++ [',']) ++ write (entry :: later) := by
  induction earlier with
  | nil => rfl
  | cons first others induction =>
      have shape : write (first :: (others ++ entry :: later)) =
          first.write ++ ',' :: write (others ++ entry :: later) := by
        cases others with
        | nil => exact write_cons_cons first entry later
        | cons next others => exact write_cons_cons first next (others ++ entry :: later)
      rw [List.cons_append, shape, induction, List.flatMap_cons]
      simp

namespace Place

variable {place : Place}

theorem write_entries (place : Place) (text : List Char) :
    write (place.entries text) = place.setting.fill text := by
  rw [entries, write_append_cons, write_cons]
  simp [Setting.fill, setting, Entry.write, Entry.rest, entry, parameter, Entry.writeParameters,
    Parameter.write, Parameter.writeValue, Padded.write, Value.write]

/-- The header is written by the rules, the quoted text belongs to a parameter that names no
relations, and no quoted text in front of it has an opening bracket. -/
structure IsOther (place : Place) (text : List Char) : Prop where
  written : ∀ entry ∈ place.entries text, entry.IsWritten IsQuotedText
  other : ¬ (place.parameter text).NamesRelations
  bare : ∀ parameter ∈ place.passed, ∀ value ∈ parameter.value, '<' ∉ value.inner.content

theorem not_mem_write_of_bare {parameter : Parameter} (written : parameter.IsWritten IsQuotedText)
    (bare : ∀ value ∈ parameter.value, '<' ∉ value.inner.content) : '<' ∉ parameter.write :=
  Parameter.not_mem_write written (by decide) (by decide) (by decide)
    (written.name.not_mem (by simp)) bare

theorem isClosed_write {entry : Entry} (written : entry.IsWritten IsQuotedText)
    (bare : ∀ parameter ∈ entry.parameters, ∀ value ∈ parameter.value,
      '<' ∉ value.inner.content) : IsClosed (entry.write ++ [',']) := by
  have bareRest : '<' ∉ entry.rest :=
    Entry.not_mem_rest written.aroundTarget fun parameter member =>
      not_mem_write_of_bare (written.parameters parameter member) (bare parameter member)
  have shape : entry.write ++ [','] =
      entry.target.before ++ '<' :: (entry.target.inner ++ '>' :: (entry.rest ++ [','])) := by
    simp [Entry.write]
  rw [shape]
  refine .entry (not_mem_of_allBlank written.aroundTarget.before (by decide)) written.target.2
    (.plain ?_)
  simpa using bareRest

theorem isClosed_earlier {earlier : List Entry}
    (written : ∀ entry ∈ earlier, entry.IsWritten IsQuotedText)
    (bare : ∀ parameter ∈ earlier.flatMap (·.parameters), ∀ value ∈ parameter.value,
      '<' ∉ value.inner.content) :
    IsClosed (earlier.flatMap fun entry => entry.write ++ [',']) := by
  induction earlier with
  | nil => exact .plain List.not_mem_nil
  | cons entry others induction =>
      rw [List.flatMap_cons, List.forall_mem_append] at bare
      rw [List.forall_mem_cons] at written
      rw [List.flatMap_cons]
      exact (isClosed_write written.1 bare.1).append (induction written.2 bare.2)

theorem IsOther.setting {text : List Char} (isOther : place.IsOther text) :
    place.setting.IsOther := by
  have written := isOther.written
  rw [entries, List.forall_mem_append, List.forall_mem_cons] at written
  rcases written with ⟨earlier, entry, -⟩
  have parameters := entry.parameters
  rw [Place.entry, List.forall_mem_append, List.forall_mem_cons] at parameters
  rcases parameters with ⟨front, parameter, -⟩
  have bare := isOther.bare
  rw [passed, List.forall_mem_append] at bare
  have frontBare : '<' ∉ Entry.writeParameters place.front :=
    Entry.not_mem_writeParameters fun other member =>
      not_mem_write_of_bare (front other member) (bare.2 other member)
  have blankTarget := entry.aroundTarget
  constructor
  · have opened : IsClosed (place.target.before ++ '<' :: (place.target.inner ++ '>' ::
        (place.target.after ++ Entry.writeParameters place.front))) := by
      have bareAfter : '<' ∉ place.target.after := not_mem_of_allBlank blankTarget.after (by decide)
      exact .entry (not_mem_of_allBlank blankTarget.before (by decide)) entry.target.2
        (.plain (List.not_mem_append bareAfter frontBare))
    have whole := (isClosed_earlier earlier bare.1).append opened
    rw [← List.append_assoc] at whole
    exact whole
  · have solid : ∀ mark ∈ ['=', ';', '<'], isBlank mark = false := by decide
    intro mark special
    refine parameter.aroundName.not_mem (solid mark special) ?_
    rcases List.mem_cons.mp special with rfl | special
    · exact parameter.bare
    · have marks : ∀ mark ∈ [';', '<'], mark ∈ ['"', ',', ';', '<'] := by decide
      exact parameter.name.not_mem (marks mark special)
  · have solid : ∀ mark ∈ [';', '<'], isBlank mark = false := by decide
    intro mark special
    exact not_mem_of_allBlank (parameter.aroundValue _ rfl).before (solid mark special)
  · have named := Parameter.isRelationName_write parameter
    rw [decide_eq_false isOther.other] at named
    exact named

end Place

/-! Pages. -/

theorem read_eq_of_links (url : Url) {first second : HttpResponse}
    (body : first.body = second.body)
    (range : first.firstText? "content-range" = second.firstText? "content-range")
    (links : (first.texts "link").flatMap Link.readAll =
      (second.texts "link").flatMap Link.readAll) :
    JobPage.read url first = JobPage.read url second := by
  simp only [JobPage.read, Question.readBody, body, range, links]

section Response

open HttpResponse

variable {status : HttpStatus} {front back : List (String × String)} {header value body : String}

theorem links_of_header (named : isNamed "link" header = true) :
    (texts ⟨status, front ++ (header, value) :: back, body⟩ "link").flatMap Link.readAll =
      (texts ⟨status, front, body⟩ "link").flatMap Link.readAll ++
        (((withoutSpaces value.toList :: []).filter isHeaderText).flatMap Link.readAll ++
          (texts ⟨status, back, body⟩ "link").flatMap Link.readAll) := by
  have split : values ⟨status, front ++ (header, value) :: back, body⟩ "link" =
      values ⟨status, front, body⟩ "link" ++
        ([withoutSpaces value.toList] ++ values ⟨status, back, body⟩ "link") := by
    simp [values, named]
  rw [texts, split, List.filter_append, List.filter_append, List.flatMap_append,
    List.flatMap_append]
  rfl

theorem range_of_link_header (named : isNamed "link" header = true) :
    firstText? ⟨status, front ++ (header, value) :: back, body⟩ "content-range" =
      firstText? ⟨status, front ++ back, body⟩ "content-range" := by
  have other : isNamed "content-range" header = false := by
    rw [isNamed, decide_eq_true_iff] at named
    rw [isNamed, named]
    decide
  simp [firstText?, values, other]

end Response

/-- A quoted text of a parameter that names no relations counts only from its first semicolon or
opening bracket on, if no quoted text in front of it has an opening bracket: two texts that agree
there give the same links, and so the same page, whatever else the response holds, if both count as
text in a header or neither does. Texts without those marks agree there, whether they hold commas,
equals signs, closing brackets or relations. -/
theorem quoted_text_counts_from_mark (place : Place) (first second : List Char)
    (isOther : place.IsOther first) (same : fromMark first = fromMark second) :
    Link.readAll (write (place.entries first)) = Link.readAll (write (place.entries second)) ∧
      (HttpResponse.isHeaderText first = HttpResponse.isHeaderText second →
        ∀ (url : Url) (status : HttpStatus) (front back : List (String × String))
          (header body : String), HttpResponse.isNamed "link" header = true →
          let page (text : List Char) := JobPage.read url
            ⟨status, front ++ (header, String.ofList (write (place.entries text))) :: back, body⟩
          page first = page second) := by
  have links (setting : Setting) (isOther : setting.IsOther) :
      Link.readAll (setting.fill first) = Link.readAll (setting.fill second) := by
    rw [isOther.readAll_fill first, isOther.readAll_fill second, same]
  constructor
  · rw [place.write_entries, place.write_entries]
    exact links place.setting isOther.setting
  · intro sameKind url status front back header body named page
    refine read_eq_of_links url rfl ?_ ?_
    · rw [range_of_link_header named, range_of_link_header named]
    · rw [links_of_header named, links_of_header named, String.toList_ofList, String.toList_ofList,
        place.write_entries, place.write_entries, Setting.withoutSpaces_fill,
        Setting.withoutSpaces_fill, List.filter_cons, List.filter_cons,
        Setting.isHeaderText_fill sameKind]
      split
      · rw [List.filter_nil, List.flatMap_singleton, List.flatMap_singleton,
          links _ isOther.setting.trimmed]
      · rfl

/-- A page with a title, which may say anything that has no mark in it. -/
theorem quoted_text_counts_from_mark_title :
    let place : Place :=
      ⟨[], ⟨[], "/jobs?page=2".toList, []⟩,
        [⟨⟨" ".toList, "rel".toList, []⟩, some ⟨[], .token "next".toList, []⟩⟩],
        ⟨" ".toList, "title".toList, []⟩, [], [], [], []⟩
    place.IsOther "Page 2".toList ∧
      fromMark "Page 2".toList = fromMark "a>, rel=prev, \\\"b".toList ∧
      write (place.entries "a>, rel=prev, \\\"b".toList) =
        "</jobs?page=2>; rel=next; title=\"a>, rel=prev, \\\"b\"".toList ∧
      Link.readAll (write (place.entries "Page 2".toList)) =
        Link.readAll (write (place.entries "a>, rel=prev, \\\"b".toList)) := by
  intro place
  have isOther : place.IsOther "Page 2".toList :=
    ⟨by decide +kernel, by decide +kernel, by decide +kernel⟩
  have same : fromMark "Page 2".toList = fromMark "a>, rel=prev, \\\"b".toList := by decide +kernel
  exact ⟨isOther, same, by decide +kernel,
    (quoted_text_counts_from_mark place _ _ isOther same).1⟩

/-- With a semicolon in its title a page that is said to be the last one is followed as the next. -/
theorem title_names_next_page :
    let place : Place :=
      ⟨[], ⟨[], "/jobs?page=9".toList, []⟩,
        [⟨⟨" ".toList, "rel".toList, []⟩, some ⟨[], .token "last".toList, []⟩⟩],
        ⟨" ".toList, "title".toList, []⟩, [], [], [], []⟩
    let next (text : List Char) := (Url.read? "http://a.test/api/jobs".toList).bind fun url =>
      (JobPage.read url
        ⟨⟨200⟩, [("link", String.ofList (write (place.entries text)))], "[]"⟩).toOption.map
          fun page => page.next.map Url.text
    place.IsOther "t".toList ∧ place.IsOther "t; rel=next".toList ∧
      Link.readAll (write (place.entries "t".toList)) = [⟨"last".toList, "/jobs?page=9".toList⟩] ∧
      Link.readAll (write (place.entries "t; rel=next".toList)) =
        [⟨"last".toList, "/jobs?page=9".toList⟩, ⟨"next".toList, "/jobs?page=9".toList⟩] ∧
      next "t".toList = some none ∧
      next "t; rel=next".toList = some (some "http://a.test/jobs?page=9") := by
  intro place next
  exact ⟨⟨by decide +kernel, by decide +kernel, by decide +kernel⟩,
    ⟨by decide +kernel, by decide +kernel, by decide +kernel⟩, by decide +kernel,
    by decide +kernel, by decide +kernel, by decide +kernel⟩

end ExportWatch.LinkHeader
