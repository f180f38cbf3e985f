import ExportWatch.Proofs.Text.Blank
import ExportWatch.Proofs.Text.Cut
import ExportWatch.Server.LinkHeader

/-! Link headers as they are written: addresses in angle brackets, each with its parameters behind
semicolons, and commas between them. What is read from a header are the relations that its
parameters name, each with the address that it was given for. -/

namespace ExportWatch.LinkHeader

open Text

/-- A part with the blank characters that stand around it. -/
structure Padded (α : Type) where
  before : List Char
  inner : α
  after : List Char

namespace Padded

variable {α : Type}

def write (text : α → List Char) (padded : Padded α) : List Char :=
  padded.before ++ text padded.inner ++ padded.after

structure IsBlank (padded : Padded α) : Prop where
  before : allBlank padded.before = true
  after : allBlank padded.after = true

end Padded

inductive Value where
  | token (text : List Char)
  | quoted (text : List Char)

namespace Value

def content : Value → List Char
  | token text => text
  | quoted text => text

def write : Value → List Char
  | token text => text
  | quoted text => '"' :: text ++ ['"']

end Value

/-- A parameter may have a name only. -/
structure Parameter where
  name : Padded (List Char)
  value : Option (Padded Value)

namespace Parameter

def writeValue : Option (Padded Value) → List Char
  | some value => '=' :: value.write Value.write
  | none => []

def write (parameter : Parameter) : List Char :=
  parameter.name.write id ++ writeValue parameter.value

/-- The name has no case. -/
def NamesRelations (parameter : Parameter) : Prop :=
  parameter.name.inner.map toSmall = "rel".toList

instance (parameter : Parameter) : Decidable parameter.NamesRelations :=
  inferInstanceAs (Decidable (_ = _))

/-- The relations are the words of the value, and have no case either. -/
def relations (parameter : Parameter) : List (List Char) :=
  match parameter.value with
  | some value =>
      if parameter.NamesRelations then
        (words value.inner.content).map fun relation => relation.map toSmall
      else []
  | none => []

end Parameter

structure Entry where
  target : Padded (List Char)
  parameters : List Parameter

namespace Entry

def writeParameters (parameters : List Parameter) : List Char :=
  parameters.flatMap fun parameter => ';' :: parameter.write

/-- What stands behind the address. -/
def rest (entry : Entry) : List Char :=
  entry.target.after ++ writeParameters entry.parameters

def write (entry : Entry) : List Char :=
  entry.target.before ++ '<' :: entry.target.inner ++ '>' :: entry.rest

def links (entry : Entry) : List Link :=
  (entry.parameters.flatMap Parameter.relations).map fun relation => ⟨relation, entry.target.inner⟩

end Entry

def write (entries : List Entry) : List Char :=
  join [','] (entries.map Entry.write)

/-! What may be written. A token holds no blank characters and none of the marks that have a
meaning behind it; a quoted text is subject to a rule of its own. -/

structure IsToken (text : List Char) : Prop where
  filled : text ≠ []
  solid : ∀ character ∈ text, isBlank character = false
  plain : ∀ character ∈ text, character ∉ ['"', ',', ';', '<']

def Value.IsWritten (quotes : List Char → Prop) : Value → Prop
  | token text => IsToken text
  | quoted text => quotes text

structure Parameter.IsWritten (quotes : List Char → Prop) (parameter : Parameter) : Prop where
  name : IsToken parameter.name.inner
  bare : '=' ∉ parameter.name.inner
  aroundName : parameter.name.IsBlank
  value : ∀ value ∈ parameter.value, value.inner.IsWritten quotes
  aroundValue : ∀ value ∈ parameter.value, value.IsBlank

structure Entry.IsWritten (quotes : List Char → Prop) (entry : Entry) : Prop where
  target : '<' ∉ entry.target.inner ∧ '>' ∉ entry.target.inner
  aroundTarget : entry.target.IsBlank
  parameters : ∀ parameter ∈ entry.parameters, parameter.IsWritten quotes

/-- Quoted text without the marks that separate parameters and entries. -/
def IsUnmarked (text : List Char) : Prop :=
  ∀ character ∈ text, character ∉ ['"', ';', '<']

section Decidable

instance (text : List Char) : Decidable (IsToken text) :=
  decidable_of_iff (text ≠ [] ∧ (∀ character ∈ text, isBlank character = false) ∧
      ∀ character ∈ text, character ∉ ['"', ',', ';', '<'])
    ⟨fun ⟨filled, solid, plain⟩ => ⟨filled, solid, plain⟩,
      fun token => ⟨token.filled, token.solid, token.plain⟩⟩

instance {α : Type} (padded : Padded α) : Decidable padded.IsBlank :=
  decidable_of_iff (allBlank padded.before = true ∧ allBlank padded.after = true)
    ⟨fun ⟨before, after⟩ => ⟨before, after⟩, fun blank => ⟨blank.before, blank.after⟩⟩

instance (text : List Char) : Decidable (IsUnmarked text) :=
  inferInstanceAs (Decidable (∀ character ∈ text, character ∉ ['"', ';', '<']))

variable {quotes : List Char → Prop} [DecidablePred quotes]

instance : (value : Value) → Decidable (value.IsWritten quotes)
  | .token text => inferInstanceAs (Decidable (IsToken text))
  | .quoted text => inferInstanceAs (Decidable (quotes text))

instance (parameter : Parameter) : Decidable (parameter.IsWritten quotes) :=
  decidable_of_iff (IsToken parameter.name.inner ∧ '=' ∉ parameter.name.inner ∧
      parameter.name.IsBlank ∧ (∀ value ∈ parameter.value, value.inner.IsWritten quotes) ∧
      ∀ value ∈ parameter.value, value.IsBlank)
    ⟨fun ⟨name, bare, aroundName, value, aroundValue⟩ =>
        ⟨name, bare, aroundName, value, aroundValue⟩,
      fun written => ⟨written.name, written.bare, written.aroundName, written.value,
        written.aroundValue⟩⟩

instance (entry : Entry) : Decidable (entry.IsWritten quotes) :=
  decidable_of_iff (('<' ∉ entry.target.inner ∧ '>' ∉ entry.target.inner) ∧
      entry.target.IsBlank ∧ ∀ parameter ∈ entry.parameters, parameter.IsWritten quotes)
    ⟨fun ⟨target, aroundTarget, parameters⟩ => ⟨target, aroundTarget, parameters⟩,
      fun written => ⟨written.target, written.aroundTarget, written.parameters⟩⟩

end Decidable

/-! Parameters. Behind the last one a comma may stand, and blank characters up to the next
address. -/

inductive IsEnding : List Char → Prop
  | none : IsEnding []
  | comma {blank : List Char} : allBlank blank = true → IsEnding (',' :: blank)

theorem IsEnding.not_mem {ending : List Char} {mark : Char} (ends : IsEnding ending)
    (solid : isBlank mark = false) (other : mark ≠ ',') : mark ∉ ending := by
  cases ends with
  | none => exact List.not_mem_nil
  | comma blank =>
      rw [List.mem_cons, not_or]
      exact ⟨other, not_mem_of_allBlank blank solid⟩

theorem Padded.IsBlank.not_mem {α : Type} {padded : Padded α} {text : α → List Char} {mark : Char}
    (blank : padded.IsBlank) (solid : Text.isBlank mark = false)
    (absent : mark ∉ text padded.inner) : mark ∉ padded.write text := by
  rw [Padded.write, List.mem_append, List.mem_append, not_or, not_or]
  exact ⟨⟨not_mem_of_allBlank blank.before solid, absent⟩, not_mem_of_allBlank blank.after solid⟩

theorem IsToken.tight {text : List Char} (token : IsToken text) : Tight text :=
  .of_forall token.solid

theorem IsToken.not_mem {text : List Char} {mark : Char} (token : IsToken text)
    (marks : mark ∈ ['"', ',', ';', '<']) : mark ∉ text :=
  fun member => token.plain mark member marks

/-- A written value is more than blank characters, and no comma is its end. -/
structure IsSolid (text : List Char) : Prop where
  filled : text ≠ []
  tight : Tight text
  ends : ∀ last ∈ text.getLast?, last ≠ ','

theorem IsToken.isSolid {text : List Char} (token : IsToken text) : IsSolid text where
  filled := token.filled
  tight := token.tight
  ends := by
    rintro last final rfl
    exact token.not_mem (by simp) (List.mem_of_getLast? final)

theorem isSolid_quoted (text : List Char) : IsSolid (Value.quoted text).write where
  filled := List.cons_ne_nil _ _
  tight := {
    starts := by
      rintro head ⟨⟩
      decide
    ends := by
      intro last final
      rw [Value.write, List.getLast?_concat] at final
      cases final
      decide }
  ends := by
    intro last final
    rw [Value.write, List.getLast?_concat] at final
    cases final
    decide

theorem withoutEnd_append {mark : Char} {text marks : List Char}
    (same : ∀ character ∈ marks, character = mark) (ends : ∀ last ∈ text.getLast?, last ≠ mark) :
    Link.withoutEnd mark (text ++ marks) = text :=
  reverse_dropWhile_append (by simpa using same) (by simpa using ends)

theorem withoutEnd_of_ends {mark : Char} {text : List Char}
    (ends : ∀ last ∈ text.getLast?, last ≠ mark) : Link.withoutEnd mark text = text := by
  have whole : Link.withoutEnd mark (text ++ []) = text := withoutEnd_append (by simp) ends
  rwa [List.append_nil] at whole

/-- A comma ends a value, and blank characters may stand on both sides of it. -/
theorem unquoted_written {padded : Padded Value} {ending : List Char}
    (solid : IsSolid padded.inner.write) (blank : padded.IsBlank) (ends : IsEnding ending) :
    Link.unquoted (padded.write Value.write ++ ending) =
      Link.withoutEnds '"' padded.inner.write := by
  rcases padded with ⟨before, value, after⟩
  rw [Link.unquoted, Padded.write]
  cases ends with
  | none =>
      rw [List.append_nil, trim_padded blank.before blank.after solid.tight,
        withoutEnd_of_ends solid.ends, solid.tight.trim_eq]
  | @comma rest blankRest =>
      have tight : Tight (value.write ++ after ++ [',']) := by
        constructor
        · intro head first
          rw [List.append_assoc, List.head?_append_of_ne_nil _ solid.filled] at first
          exact solid.tight.starts head first
        · intro last final
          rw [List.getLast?_concat] at final
          cases final
          decide
      have ends : ∀ last ∈ (value.write ++ after).getLast?, last ≠ ',' := by
        intro last final
        by_cases empty : after = []
        · rw [empty, List.append_nil] at final
          exact solid.ends last final
        · rw [List.getLast?_append_of_ne_nil _ empty] at final
          rintro rfl
          exact not_mem_of_allBlank blank.after (by decide) (List.mem_of_getLast? final)
      have shape : before ++ value.write ++ after ++ ',' :: rest =
          before ++ (value.write ++ after ++ [',']) ++ rest := by
        simp only [List.append_assoc, List.singleton_append]
      have noComma : Link.withoutEnd ',' (value.write ++ after ++ [',']) = value.write ++ after :=
        withoutEnd_append (by simp) ends
      have inner : trim ([] ++ value.write ++ after) = value.write :=
        trim_padded rfl blank.after solid.tight
      rw [List.nil_append] at inner
      rw [shape, trim_padded blank.before blankRest tight, noComma, inner]

theorem withoutEnds_of_not_mem {mark : Char} {text : List Char} (absent : mark ∉ text) :
    Link.withoutEnds mark text = text := by
  have starts : ∀ head ∈ text.head?, decide (head = mark) = false := by
    intro head first
    rw [decide_eq_false_iff_not]
    rintro rfl
    exact absent (List.mem_of_mem_head? first)
  have ends : ∀ last ∈ text.getLast?, last ≠ mark := by
    rintro last final rfl
    exact absent (List.mem_of_getLast? final)
  rw [Link.withoutEnds, dropWhile_of_head starts, withoutEnd_of_ends ends]

theorem withoutEnds_quoted {text : List Char} (absent : '"' ∉ text) :
    Link.withoutEnds '"' ('"' :: text ++ ['"']) = text := by
  cases text with
  | nil => decide
  | cons head tail =>
      have other : head ≠ '"' := by
        rintro rfl
        exact absent List.mem_cons_self
      have ends : ∀ last ∈ (head :: tail).getLast?, last ≠ '"' := by
        rintro last final rfl
        exact absent (List.mem_of_getLast? final)
      have inner : ('"' :: (head :: tail) ++ ['"']).dropWhile (· = '"') =
          (head :: tail) ++ ['"'] := by
        simp [other]
      rw [Link.withoutEnds, inner, withoutEnd_append (by simp) ends]

theorem Value.withoutEnds_write {value : Value} (written : value.IsWritten IsUnmarked) :
    Link.withoutEnds '"' value.write = value.content := by
  cases value with
  | token text => exact withoutEnds_of_not_mem (written.not_mem (by simp))
  | quoted text =>
      exact withoutEnds_quoted fun member => written '"' member (by simp)

theorem Value.IsWritten.isSolid {quotes : List Char → Prop} {value : Value}
    (written : value.IsWritten quotes) : IsSolid value.write := by
  cases value with
  | token text => exact IsToken.isSolid written
  | quoted text => exact isSolid_quoted text

theorem Value.not_mem_write {value : Value} {mark : Char} (notQuote : mark ≠ '"')
    (absent : mark ∉ value.content) : mark ∉ value.write := by
  cases value with
  | token text => exact absent
  | quoted text =>
      have bare : mark ∉ text := absent
      simpa [write, notQuote] using bare

theorem Value.not_mem_content {value : Value} {mark : Char} (written : value.IsWritten IsUnmarked)
    (separates : mark ∈ [';', '<']) : mark ∉ value.content := by
  have marks : ∀ mark ∈ [';', '<'], mark ∈ ['"', ',', ';', '<'] ∧ mark ∈ ['"', ';', '<'] := by
    decide
  cases value with
  | token text => exact IsToken.not_mem written (marks mark separates).1
  | quoted text => exact fun member => written mark member (marks mark separates).2

namespace Parameter

variable {parameter : Parameter} {ending : List Char}

theorem isRelationName_write {quotes : List Char → Prop} (written : parameter.IsWritten quotes) :
    Link.isRelationName (parameter.name.write id) = decide parameter.NamesRelations := by
  have name : trim (parameter.name.write id) = parameter.name.inner :=
    trim_padded written.aroundName.before written.aroundName.after written.name.tight
  rw [Link.isRelationName, name]
  rfl

/-- A parameter is read as it was written, also if it is the last one before another entry. -/
theorem relations_write (written : parameter.IsWritten IsUnmarked) (ends : IsEnding ending) :
    Link.relations (parameter.write ++ ending) = parameter.relations := by
  have bareName : '=' ∉ parameter.name.write id :=
    written.aroundName.not_mem (by decide) written.bare
  cases given : parameter.value with
  | none =>
      have bare : '=' ∉ parameter.write ++ ending := by
        rw [write, given, writeValue, List.append_nil, List.mem_append, not_or]
        exact ⟨bareName, ends.not_mem (by decide) (by decide)⟩
      rw [Link.relations, cutAt_of_not_mem bare, relations, given]
  | some value =>
      have member : value ∈ parameter.value := given
      have content : Link.unquoted (value.write Value.write ++ ending) = value.inner.content :=
        (unquoted_written (written.value value member).isSolid (written.aroundValue value member)
          ends).trans (Value.withoutEnds_write (written.value value member))
      rw [Link.relations, write, given, writeValue, List.append_assoc, List.cons_append,
        cutAt_append bareName, relations, given]
      simp only [isRelationName_write written, content, decide_eq_true_eq]

theorem not_mem_write {quotes : List Char → Prop} {mark : Char}
    (written : parameter.IsWritten quotes) (solid : isBlank mark = false) (notEquals : mark ≠ '=')
    (notQuote : mark ≠ '"') (notInName : mark ∉ parameter.name.inner)
    (absent : ∀ value ∈ parameter.value, mark ∉ value.inner.content) : mark ∉ parameter.write := by
  rw [write, List.mem_append, not_or]
  refine ⟨written.aroundName.not_mem solid notInName, ?_⟩
  cases given : parameter.value with
  | none => exact List.not_mem_nil
  | some value =>
      rw [writeValue, List.mem_cons, not_or]
      exact ⟨notEquals, (written.aroundValue value given).not_mem solid
        (Value.not_mem_write notQuote (absent value given))⟩

/-- The marks that separate parameters and entries stand in no parameter. -/
theorem not_mem_separator {mark : Char} (written : parameter.IsWritten IsUnmarked)
    (separates : mark ∈ [';', '<']) : mark ∉ parameter.write := by
  have special : ∀ mark ∈ [';', '<'], isBlank mark = false ∧ mark ≠ '=' ∧ mark ≠ '"' ∧
      mark ∈ ['"', ',', ';', '<'] := by decide
  rcases special mark separates with ⟨solid, notEquals, notQuote, marks⟩
  exact not_mem_write written solid notEquals notQuote (written.name.not_mem marks)
    fun value member => Value.not_mem_content (written.value value member) separates

end Parameter

/-! Entries. -/

namespace Entry

variable {entry : Entry} {ending : List Char}

/-- What comes before the first parameter is read like a parameter. -/
theorem relations_writeParameters {parameters : List Parameter} {first : List Char}
    {named : List (List Char)}
    (written : ∀ parameter ∈ parameters, parameter.IsWritten IsUnmarked) (bare : ';' ∉ first)
    (reads : ∀ ending, IsEnding ending → Link.relations (first ++ ending) = named)
    (ends : IsEnding ending) :
    (parts ';' (first ++ writeParameters parameters ++ ending)).flatMap Link.relations =
      named ++ parameters.flatMap Parameter.relations := by
  induction parameters generalizing first named with
  | nil =>
      have whole : ';' ∉ first ++ ending :=
        List.not_mem_append bare (ends.not_mem (by decide) (by decide))
      rw [writeParameters, List.flatMap_nil, List.flatMap_nil, List.append_nil,
        parts_of_not_mem whole, List.flatMap_singleton, reads ending ends, List.append_nil]
  | cons parameter others induction =>
      have writtenFirst := written parameter List.mem_cons_self
      have inner := induction
        (fun other member => written other (List.mem_cons_of_mem _ member))
        (Parameter.not_mem_separator writtenFirst (by simp))
        (fun ending ends => Parameter.relations_write writtenFirst ends)
      have shape : first ++ writeParameters (parameter :: others) ++ ending =
          first ++ ';' :: (parameter.write ++ writeParameters others ++ ending) := by
        simp [writeParameters]
      have readFirst : Link.relations first = named := by
        simpa using reads [] .none
      rw [shape, parts_append, parts_of_not_mem bare, List.singleton_append, List.flatMap_cons,
        inner, readFirst, List.flatMap_cons]

theorem ofParameters_rest (written : entry.IsWritten IsUnmarked) (ends : IsEnding ending) :
    Link.ofParameters entry.target.inner (entry.rest ++ ending) = entry.links := by
  have blank := written.aroundTarget.after
  have reads : ∀ ending, IsEnding ending →
      Link.relations (entry.target.after ++ ending) = [] := by
    intro ending ends
    have bare : '=' ∉ entry.target.after ++ ending :=
      List.not_mem_append (not_mem_of_allBlank blank (by decide))
        (ends.not_mem (by decide) (by decide))
    rw [Link.relations, cutAt_of_not_mem bare]
  rw [Link.ofParameters, rest, relations_writeParameters written.parameters
    (not_mem_of_allBlank blank (by decide)) reads ends]
  rfl

theorem not_mem_writeParameters {parameters : List Parameter}
    (bare : ∀ parameter ∈ parameters, '<' ∉ parameter.write) :
    '<' ∉ writeParameters parameters := by
  rw [writeParameters, List.mem_flatMap]
  rintro ⟨parameter, member, inside⟩
  rcases List.mem_cons.mp inside with mark | inside
  · cases mark
  · exact bare parameter member inside

theorem not_mem_rest (blank : entry.target.IsBlank)
    (bare : ∀ parameter ∈ entry.parameters, '<' ∉ parameter.write) : '<' ∉ entry.rest := by
  rw [rest]
  exact List.not_mem_append (not_mem_of_allBlank blank.after (by decide))
    (not_mem_writeParameters bare)

end Entry

/-! Headers. -/

theorem readAll_of_not_mem {text : List Char} (absent : '<' ∉ text) : Link.readAll text = [] := by
  unfold Link.readAll
  split
  · rfl
  · next opened =>
      rw [cutAt_of_not_mem absent] at opened
      cases opened

theorem readAll_entry {lead target : List Char} (bareLead : '<' ∉ lead) (bareTarget : '>' ∉ target)
    (others : List Char) :
    Link.readAll (lead ++ '<' :: (target ++ '>' :: others)) =
      Link.ofParameters target (others.takeWhile (· ≠ '<')) ++ Link.readAll others := by
  rw [Link.readAll]
  split
  · next opened =>
      rw [cutAt_append bareLead] at opened
      cases opened
  · next opened =>
      rw [cutAt_append bareLead] at opened
      cases opened
      split
      · next closed =>
          rw [cutAt_append bareTarget] at closed
          cases closed
      · next closed =>
          rw [cutAt_append bareTarget] at closed
          cases closed
          rfl

theorem write_singleton (entry : Entry) : write [entry] = entry.write := by
  simp [write, join]

theorem write_cons_cons (first second : Entry) (others : List Entry) :
    write (first :: second :: others) = first.write ++ ',' :: write (second :: others) := by
  simp [write, join, List.intercalate_cons_cons]

theorem exists_write_cons (entry : Entry) (others : List Entry) :
    ∃ tail, write (entry :: others) = entry.target.before ++ '<' :: tail := by
  cases others with
  | nil => exact ⟨_, by rw [write_singleton, Entry.write, List.append_assoc]; rfl⟩
  | cons next others =>
      exact ⟨_, by rw [write_cons_cons, Entry.write, List.append_assoc, List.append_assoc]; rfl⟩

theorem takeWhile_append_unopened {lead : List Char} (bare : '<' ∉ lead) (text : List Char) :
    (lead ++ text).takeWhile (· ≠ '<') = lead ++ text.takeWhile (· ≠ '<') := by
  apply List.takeWhile_append_of_pos
  intro character member
  rw [decide_eq_true_iff]
  rintro rfl
  exact bare member

theorem takeWhile_opened {lead : List Char} (bare : '<' ∉ lead) (tail : List Char) :
    (lead ++ '<' :: tail).takeWhile (· ≠ '<') = lead := by
  rw [takeWhile_append_unopened bare, List.takeWhile_cons_of_neg (by simp), List.append_nil]

theorem takeWhile_unopened {text : List Char} (bare : '<' ∉ text) :
    text.takeWhile (· ≠ '<') = text := by
  simpa using takeWhile_append_unopened bare []

/-- What stands between an address and the next one belongs to the first, also the comma and the
blank characters before the second. -/
theorem readAll_append_write {entries : List Entry}
    (written : ∀ entry ∈ entries, entry.IsWritten IsUnmarked) {lead : List Char}
    (bare : '<' ∉ lead) : Link.readAll (lead ++ write entries) = entries.flatMap Entry.links := by
  induction entries generalizing lead with
  | nil =>
      have whole : lead ++ write [] = lead := List.append_nil lead
      rw [whole, readAll_of_not_mem bare, List.flatMap_nil]
  | cons entry others induction =>
      have writtenFirst := written entry List.mem_cons_self
      have writtenOthers : ∀ other ∈ others, other.IsWritten IsUnmarked :=
        fun other member => written other (List.mem_cons_of_mem _ member)
      have bareLead : '<' ∉ lead ++ entry.target.before :=
        List.not_mem_append bare
          (not_mem_of_allBlank writtenFirst.aroundTarget.before (by decide))
      have bareRest : '<' ∉ entry.rest :=
        Entry.not_mem_rest writtenFirst.aroundTarget fun parameter member =>
          Parameter.not_mem_separator (writtenFirst.parameters parameter member) (by simp)
      cases others with
      | nil =>
          have shape : lead ++ write [entry] =
              lead ++ entry.target.before ++ '<' :: (entry.target.inner ++ '>' :: entry.rest) := by
            simp [write_singleton, Entry.write]
          have links := Entry.ofParameters_rest writtenFirst .none
          rw [List.append_nil] at links
          rw [shape, readAll_entry bareLead writtenFirst.target.2, takeWhile_unopened bareRest,
            links, readAll_of_not_mem bareRest, List.flatMap_singleton, List.append_nil]
      | cons next others =>
          have blank := (writtenOthers next List.mem_cons_self).aroundTarget.before
          have bareComma : '<' ∉ entry.rest ++ [','] := by
            simpa using bareRest
          have bareEnding : '<' ∉ entry.rest ++ ',' :: next.target.before :=
            List.not_mem_append bareRest ((IsEnding.comma blank).not_mem (by decide) (by decide))
          have shape : lead ++ write (entry :: next :: others) =
              lead ++ entry.target.before ++ '<' :: (entry.target.inner ++ '>' ::
                (entry.rest ++ [','] ++ write (next :: others))) := by
            simp [write_cons_cons, Entry.write]
          rcases exists_write_cons next others with ⟨tail, opened⟩
          have between : (entry.rest ++ [','] ++ write (next :: others)).takeWhile (· ≠ '<') =
              entry.rest ++ ',' :: next.target.before := by
            rw [← takeWhile_opened bareEnding tail, opened]
            simp
          rw [shape, readAll_entry bareLead writtenFirst.target.2, between,
            Entry.ofParameters_rest writtenFirst (.comma blank), induction writtenOthers bareComma]
          rfl

/-- From a header that is written by the rules, each relation is read with the address that it was
given for, in order, and nothing else is. -/
theorem readAll_write (entries : List Entry)
    (written : ∀ entry ∈ entries, entry.IsWritten IsUnmarked) :
    Link.readAll (write entries) = entries.flatMap Entry.links := by
  rw [← List.nil_append (write entries)]
  exact readAll_append_write written List.not_mem_nil

/-- The first address holds commas, a semicolon and quotes; the second has a parameter of its own
and no relation that is written as one. -/
theorem readAll_write_of_two :
    let entries : List Entry :=
      [⟨⟨[], "/jobs?bbox=1,2;q=\"x\"".toList, []⟩,
        [⟨⟨" ".toList, "Rel".toList, []⟩,
          some ⟨[], .quoted "next  Last".toList, " ".toList⟩⟩]⟩,
      ⟨⟨" ".toList, "/jobs?page=1".toList, " ".toList⟩,
        [⟨⟨[], "title".toList, []⟩, some ⟨[], .quoted "rel=up, x>".toList, []⟩⟩,
          ⟨⟨[], "rel".toList, "\t".toList⟩, some ⟨[], .token "prev".toList, []⟩⟩,
          ⟨⟨[], "rel".toList, []⟩, none⟩]⟩]
    (∀ entry ∈ entries, entry.IsWritten IsUnmarked) ∧
      write entries = ("</jobs?bbox=1,2;q=\"x\">; Rel=\"next  Last\" , </jobs?page=1> " ++
        ";title=\"rel=up, x>\";rel\t=prev;rel").toList ∧
      Link.readAll (write entries) =
        [⟨"next".toList, "/jobs?bbox=1,2;q=\"x\"".toList⟩,
          ⟨"last".toList, "/jobs?bbox=1,2;q=\"x\"".toList⟩,
          ⟨"prev".toList, "/jobs?page=1".toList⟩] := by
  intro entries
  have written : ∀ entry ∈ entries, entry.IsWritten IsUnmarked := by decide +kernel
  refine ⟨written, by decide +kernel, ?_⟩
  rw [readAll_write entries written]
  decide +kernel

end ExportWatch.LinkHeader
