import ExportWatch.Proofs.Json.Writing

/-! Text that begins like a list of records is read as a list or not at all, and the first
item of the list is no text. A record may be written as the list of its fields, but not
when its first field is text. -/

namespace ExportWatch.Json

def Node.NotText : Node → Prop
  | .text _ => False
  | _ => True

def Node.Listed : Node → Prop
  | .array items _ => ∀ first ∈ items.head?, first.NotText
  | _ => False

/-- The outermost container is a list. What comes next in it may be its first item only if
that is known to be no text. -/
def OpenList (next : Prop) : List Frame → Prop
  | [] => False
  | [.items done] => (∀ first ∈ done.getLast?, first.NotText) ∧ (done = [] → next)
  | [.members _ _] => False
  | _ :: second :: outer => OpenList True (second :: outer)

theorem OpenList.mono {next other : Prop} {frames : List Frame} (opened : OpenList next frames)
    (implies : next → other) : OpenList other frames := by
  rcases frames with _ | ⟨_ | _, _ | ⟨second, outer⟩⟩
  · exact opened
  · exact ⟨opened.1, fun empty => implies (opened.2 empty)⟩
  · exact opened
  · exact opened
  · exact opened

theorem OpenList.inside {next other : Prop} {frames : List Frame} (opened : OpenList next frames)
    (frame : Frame) : OpenList other (frame :: frames) := by
  rcases frames with _ | ⟨second, outer⟩
  · exact absurd opened id
  · cases frame <;> exact opened.mono fun _ => trivial

theorem notText_atDepth {frames : List Frame} {node : Node} (notText : node.NotText) :
    (atDepth frames node).NotText := by
  unfold atDepth
  split
  · exact notText
  · trivial

/-- The first item is the one that was read first, or the next one. -/
theorem notText_first {done : List Node} {node : Node}
    (opened : OpenList node.NotText [.items done]) : (done.getLast?.getD node).NotText := by
  cases last : done.getLast? with
  | none => exact opened.2 (List.getLast?_eq_none_iff.mp last)
  | some first => exact opened.1 first last

theorem listed_array {done : List Node} {node : Node} (ending : Option Fault)
    (opened : OpenList node.NotText [.items done]) :
    (Node.array (done.reverse ++ [node]) ending).Listed := by
  have isFirst : (done.reverse ++ [node]).head? = some (done.getLast?.getD node) := by
    rw [List.head?_append, List.head?_reverse]
    cases done.getLast? <;> rfl
  rw [Node.Listed, isFirst]
  rintro first ⟨⟩
  exact notText_first opened

/-- A container inside the list is closed around its last part. -/
theorem openList_outer {next : Prop} {frame : Frame} {outer : List Frame} {node : Node}
    (opened : OpenList next (frame :: outer)) (isInside : outer ≠ []) (notText : node.NotText) :
    OpenList (atDepth outer node).NotText outer := by
  rcases outer with _ | ⟨second, more⟩
  · exact absurd rfl isInside
  · have outerOpened : OpenList True (second :: more) := by
      cases frame <;> exact opened
    exact outerOpened.mono fun _ => notText_atDepth notText

theorem listed_closeAround {frames : List Frame} {node : Node}
    (opened : OpenList node.NotText frames) : (closeAround node frames).Listed := by
  induction frames generalizing node with
  | nil => exact absurd opened id
  | cons frame outer induction =>
      rcases outer with _ | ⟨second, more⟩
      · cases frame with
        | items done => exact listed_array none opened
        | members done key => exact absurd opened id
      · apply induction
        apply openList_outer opened (List.cons_ne_nil _ _)
        cases frame <;> trivial

namespace Reading

def Listed : Reading → Prop
  | beforeValue _ frames => OpenList False frames
  | beforeKey _ _ frames => OpenList True frames
  | beforeColon _ _ frames => OpenList True frames
  | afterValue node frames => (frames = [] ∧ node.Listed) ∨ OpenList node.NotText frames
  | finished document => document.node.Listed

theorem listed_fail {frames : List Frame} {node : Node} (opened : OpenList node.NotText frames) :
    (fail node frames).Listed :=
  listed_closeAround opened

theorem listed_failMember {frames : List Frame} (opened : OpenList True frames)
    (done : List (Key × Node)) (fault : Fault) : (failMember done fault frames).Listed :=
  listed_closeAround (opened.inside _)

/-- A value that closes a list or an object. -/
theorem listed_afterValue {next : Prop} {frame : Frame} {outer : List Frame} {node : Node}
    (opened : OpenList next (frame :: outer)) (notText : node.NotText)
    (listed : outer = [] → node.Listed) : (afterValue (atDepth outer node) outer).Listed := by
  rcases outer with _ | ⟨second, more⟩
  · exact .inl ⟨rfl, listed rfl⟩
  · exact .inr (openList_outer opened (List.cons_ne_nil _ _) notText)

theorem listed_failAround {next : Prop} {frame : Frame} {outer : List Frame} {node : Node}
    (opened : OpenList next (frame :: outer)) (notText : node.NotText)
    (listed : outer = [] → node.Listed) : (fail (atDepth outer node) outer).Listed := by
  rcases outer with _ | ⟨second, more⟩
  · exact listed rfl
  · exact listed_fail (openList_outer opened (List.cons_ne_nil _ _) notText)

theorem listed_failSeparator {node : Node} {frames : List Frame}
    (listed : (afterValue node frames).Listed) (fault : Fault) :
    (failSeparator node fault frames).Listed := by
  rcases listed with ⟨rfl, listed⟩ | opened
  · exact listed
  · rcases frames with _ | ⟨_ | _, outer⟩
    · exact absurd opened id
    · exact listed_failAround opened trivial fun alone => listed_array _ (alone ▸ opened)
    · refine listed_failAround opened trivial fun alone => ?_
      subst alone
      exact absurd opened id

theorem listed_stepValue {frames : List Frame} (canClose : Bool) (opened : OpenList False frames)
    (token : Token) : (stepValue canClose frames token).Listed := by
  have anything : ∀ node : Node, OpenList node.NotText frames := fun node =>
    opened.mono False.elim
  cases token with
  | openObject => exact opened.mono False.elim
  | openArray => exact opened.inside _
  | closeArray =>
      simp only [stepValue]
      split
      · exact listed_afterValue opened trivial fun _ => nofun
      · next done outer _ =>
          refine listed_failAround opened trivial fun alone => ?_
          subst alone
          intro first isFirst
          rw [List.head?_reverse] at isFirst
          exact opened.1 first isFirst
      · exact listed_fail (anything _)
  | null | bool value | number value | text content => exact .inr (anything _)
  | word fault | broken fault => exact listed_fail (anything _)
  | closeObject | colon | comma | stray => exact listed_fail (anything _)

theorem listed_stepKey {done : List (Key × Node)} {frames : List Frame} (canClose : Bool)
    (opened : OpenList True frames) (token : Token) :
    (stepKey canClose done frames token).Listed := by
  cases token with
  | text content => exact opened
  | closeObject =>
      cases canClose with
      | false => exact listed_failMember opened done _
      | true => exact .inr (opened.mono fun _ => notText_atDepth trivial)
  | _ => exact listed_failMember opened done _

theorem listed_stepColon {done : List (Key × Node)} {key : Key} {frames : List Frame}
    (opened : OpenList True frames) (token : Token) : (stepColon done key frames token).Listed := by
  cases token with
  | colon => exact opened.inside _
  | _ => exact listed_fail (opened.inside _)

theorem listed_stepSeparator {node : Node} {frames : List Frame}
    (listed : (afterValue node frames).Listed) (token : Token) :
    (stepSeparator node frames token).Listed := by
  unfold stepSeparator
  split
  · next done outer =>
      rcases listed with ⟨impossible, -⟩ | opened
      · cases impossible
      · rcases outer with _ | ⟨second, more⟩
        · refine ⟨?_, nofun⟩
          rw [List.getLast?_cons]
          rintro first ⟨⟩
          exact notText_first opened
        · exact opened
  · next done key outer =>
      rcases listed with ⟨impossible, -⟩ | opened
      · cases impossible
      · rcases outer with _ | ⟨second, more⟩
        · exact absurd opened id
        · exact opened
  · next done outer =>
      rcases listed with ⟨impossible, -⟩ | opened
      · cases impossible
      · exact listed_afterValue opened trivial fun alone => listed_array _ (alone ▸ opened)
  · next done key outer =>
      rcases listed with ⟨impossible, -⟩ | opened
      · cases impossible
      · refine listed_afterValue opened trivial fun alone => ?_
        subst alone
        exact absurd opened id
  · exact listed_failSeparator listed _
  · exact listed_failSeparator listed _

theorem listed_step {reading : Reading} (listed : reading.Listed) (token : Token) :
    (reading.step token).Listed := by
  cases reading with
  | beforeValue canClose frames => exact listed_stepValue canClose listed token
  | beforeKey canClose done frames => exact listed_stepKey canClose listed token
  | beforeColon done key frames => exact listed_stepColon listed token
  | afterValue node frames => exact listed_stepSeparator listed token
  | finished document => exact listed

theorem listed_document {reading : Reading} (listed : reading.Listed) :
    reading.document.node.Listed := by
  cases reading with
  | beforeValue canClose frames => exact listed_closeAround (listed.mono False.elim)
  | beforeKey canClose done frames => exact listed_failMember listed done _
  | beforeColon done key frames => exact listed_closeAround (OpenList.inside listed _)
  | afterValue node frames =>
      rcases listed with ⟨rfl, listed⟩ | opened
      · exact listed
      · rcases frames with _ | ⟨_ | _, outer⟩
        · exact absurd opened id
        · exact listed_failAround opened trivial fun alone => listed_array _ (alone ▸ opened)
        · refine listed_failAround opened trivial fun alone => ?_
          subst alone
          exact absurd opened id
  | finished document => exact listed

theorem listed_foldl {tokens : List Token} {reading : Reading} (listed : reading.Listed) :
    (tokens.foldl step reading).Listed := by
  induction tokens generalizing reading with
  | nil => exact listed
  | cons head tail induction => exact induction (listed_step listed head)

end Reading

/-- The text of a list whose first item, if there is one, begins with a brace. -/
theorem listed_readDocument {text : List Char} {rest : List Token}
    (begins : tokens text = .openArray :: .openObject :: rest ∨
      tokens text = .openArray :: .closeArray :: rest) : (readDocument text).node.Listed := by
  rw [readDocument]
  apply Reading.listed_document
  rcases begins with object | empty
  · rw [object, List.foldl_cons, List.foldl_cons]
    apply Reading.listed_foldl
    refine ⟨?_, fun _ => trivial⟩
    intro first isFirst
    cases isFirst
  · rw [empty, List.foldl_cons, List.foldl_cons]
    apply Reading.listed_foldl
    refine .inl ⟨rfl, ?_⟩
    intro first isFirst
    cases isFirst

/-! Objects that are written as a list. -/

theorem exists_enclosed (layout : Layout) (opening closing : Char) (depth : Nat)
    (body : List Char) :
    ∃ rest, enclosed layout opening closing depth body = opening :: rest := by
  unfold enclosed
  split
  · exact ⟨_, rfl⟩
  · exact ⟨_, rfl⟩

theorem tokens_write_objects {layout : Layout} (blank : layout.Blank) (items : List Value)
    (objects : ∀ first ∈ items.head?, ∃ members, first = .object members) :
    ∃ rest, tokens ((Value.array items).write layout 0) = .openArray :: .openObject :: rest ∨
      tokens ((Value.array items).write layout 0) = .openArray :: .closeArray :: rest := by
  cases items with
  | nil =>
      refine ⟨[], .inr ?_⟩
      change tokens ['[', ']'] = _
      rw [tokens_mark ('[', .openArray) (by simp [marks]),
        tokens_mark (']', .closeArray) (by simp [marks]), tokens_nil]
  | cons head tail =>
      rcases objects head rfl with ⟨members, rfl⟩
      rcases exists_enclosed layout '\x7b' '\x7d' 1 (writeMembers layout 2 members) with
        ⟨inside, opened⟩
      have written : (Value.object members).write layout 1 = '\x7b' :: inside := opened
      rw [Value.write, writeItems, written]
      rw [enclosed, if_neg (by simp)]
      simp only [List.cons_append, List.append_assoc]
      rw [tokens_mark ('[', .openArray) (by simp [marks]), tokens_blank (blank.lineBreak _),
        tokens_mark ('\x7b', .openObject) (by simp [marks])]
      exact ⟨_, .inl rfl⟩

/-! A record whose first field is required and is text. -/

theorem decodeText_of_notText {node : Node} (notText : node.NotText) :
    ∃ fault, decodeText node = .error fault := by
  cases node with
  | text content => exact absurd notText id
  | _ => exact ⟨_, rfl⟩

theorem fields_of_listed {node : Node} {name : String} {others : List FieldRule}
    (listed : node.Listed) :
    ∃ fault, node.fields (.of name true decodeText :: others) = .error fault := by
  cases node with
  | array items ending =>
      cases items with
      | nil =>
          cases ending with
          | none => exact ⟨_, rfl⟩
          | some fault => exact ⟨_, rfl⟩
      | cons first rest =>
          rcases decodeText_of_notText (listed first rfl) with ⟨fault, refused⟩
          refine ⟨fault, ?_⟩
          rw [Node.fields, checkItems]
          simp [FieldRule.of, refused, Except.map, bind, Except.bind]
  | _ => exact absurd listed id

end ExportWatch.Json
