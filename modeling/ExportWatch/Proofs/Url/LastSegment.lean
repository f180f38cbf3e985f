import ExportWatch.Proofs.Url.Segment

/-! What a reference can end in. It grows shorter on the way to its last segment wherever that is
not the whole of it, so the segment stands for the reference only when nothing was taken away. -/

namespace ExportWatch.Url

open Text Host

theorem splitAt_sublist (mark : Char) (text : List Char) : (splitAt mark text).1.Sublist text := by
  by_cases member : mark ∈ text
  · rcases List.eq_append_cons_of_mem member with ⟨before, after, rfl, bare⟩
    rw [splitAt, cutAt_append bare]
    exact List.sublist_append_left _ _
  · rw [splitAt, cutAt_of_not_mem member]

theorem not_mem_of_splitAt {mark : Char} {text : List Char} (whole : (splitAt mark text).1 = text) :
    mark ∉ text := by
  intro member
  rcases List.eq_append_cons_of_mem member with ⟨before, after, rfl, bare⟩
  rw [splitAt, cutAt_append bare] at whole
  simp at whole

theorem trimmed_sublist (text : List Char) :
    ((text.reverse.dropWhile isEdge).reverse).Sublist text := by
  have dropped := (List.dropWhile_sublist isEdge (l := text.reverse)).reverse
  rwa [List.reverse_reverse] at dropped

theorem tidied_sublist (text : List Char) : (tidied text).Sublist text :=
  List.filter_sublist.trans (trimmed_sublist text)

theorem noEdge_of_tidied {text : List Char} (whole : tidied text = text) :
    (∀ character ∈ text, isBreak character = false) ∧
      ∀ last ∈ text.getLast?, isEdge last = false := by
  constructor
  · rw [← whole]
    intro character member
    simpa using (List.mem_filter.mp member).2
  · have filtered : (tidied text).Sublist ((text.reverse.dropWhile isEdge).reverse) :=
      List.filter_sublist
    rw [whole] at filtered
    have trimmed := (trimmed_sublist text).antisymm filtered
    have ending : text.getLast? = (text.reverse.dropWhile isEdge).head? :=
      (congrArg List.getLast? trimmed).symm.trans List.getLast?_reverse
    have notDropped := List.head?_dropWhile_not isEdge text.reverse
    intro last final
    rw [← ending, final] at notDropped
    exact notDropped

/-- Where a backslash is taken for a slash. -/
def slashed (special : Bool) (text : List Char) : List Char :=
  if special then text.map fun character => if character = '\\' then '/' else character else text

theorem front_partsOf (special : Bool) (text : List Char) :
    (partsOf special text).front = slashed special (splitAt '?' (splitAt '#' text).1).1 :=
  rfl

theorem length_bytesOf_slashed (special : Bool) (text : List Char) :
    (bytesOf (slashed special text)).length = (bytesOf text).length := by
  cases special with
  | false => rfl
  | true =>
      induction text with
      | nil => rfl
      | cons head tail induction =>
          have same : (String.utf8EncodeChar (if head = '\\' then '/' else head)).length =
              (String.utf8EncodeChar head).length := by
            split
            · next backslash => rw [backslash]; rfl
            · rfl
          simp only [slashed, if_true, bytesOf, List.map_cons, List.flatMap_cons,
            List.length_append] at induction ⊢
          rw [same, induction]

theorem slashed_of_noSlash {special : Bool} {text : List Char}
    (noSlash : '/' ∉ slashed special text) :
    slashed special text = text ∧ (special = true → '\\' ∉ text) := by
  cases special with
  | false => exact ⟨rfl, fun isSpecial => by cases isSpecial⟩
  | true =>
      have noBackslash : '\\' ∉ text := fun member =>
        noSlash (List.mem_map.mpr ⟨'\\', member, rfl⟩)
      exact ⟨map_slash_of_not_mem noBackslash, fun _ => noBackslash⟩

/-- Nothing was taken away from a text that has a segment with all of its bytes. -/
theorem eq_of_large_segment {special : Bool} {text last : List Char}
    (member : last ∈ parts '/' (partsOf special (tidied text)).front)
    (large : (bytesOf text).length ≤ (bytesOf last).length) :
    last = text ∧ tidied text = text ∧ '#' ∉ text ∧ '?' ∉ text ∧
      (special = true → '\\' ∉ text) := by
  have noSlash := not_mem_of_mem_parts member
  have inFront := sublist_of_mem_parts member
  rw [front_partsOf] at inFront
  -- Every step to the segment takes characters away or leaves the text alone. With all bytes left
  -- at the end, every step left it alone.
  have beforeHash := splitAt_sublist '#' (tidied text)
  have beforeQuestion := splitAt_sublist '?' (splitAt '#' (tidied text)).1
  have enough : (bytesOf text).length ≤
      (bytesOf (splitAt '?' (splitAt '#' (tidied text)).1).1).length := by
    have within := (inFront.flatMap String.utf8EncodeChar).length_le
    exact large.trans (within.trans_eq (length_bytesOf_slashed special _))
  have frontWhole : (splitAt '?' (splitAt '#' (tidied text)).1).1 = text :=
    eq_of_sublist_of_bytes (beforeQuestion.trans (beforeHash.trans (tidied_sublist text))) enough
  have mainWhole : (splitAt '#' (tidied text)).1 = text := by
    rw [frontWhole] at beforeQuestion
    exact (beforeHash.trans (tidied_sublist text)).antisymm beforeQuestion
  have tidiedWhole : tidied text = text := by
    rw [mainWhole] at beforeHash
    exact (tidied_sublist text).antisymm beforeHash
  rw [frontWhole] at inFront
  have lastWhole : last = slashed special text := by
    apply eq_of_sublist_of_bytes inFront
    rw [length_bytesOf_slashed]
    exact large
  rw [lastWhole] at noSlash
  rcases slashed_of_noSlash noSlash with ⟨same, noBackslash⟩
  rw [mainWhole] at frontWhole
  rw [tidiedWhole] at mainWhole
  exact ⟨lastWhole.trans same, tidiedWhole, not_mem_of_splitAt mainWhole,
    not_mem_of_splitAt frontWhole, noBackslash⟩

/-! The last name of a path. -/

theorem getLast?_of_text {names : List (List Char)} (noSlash : ∀ name ∈ names, '/' ∉ name)
    {front name : List Char} (bare : '/' ∉ name)
    (text : (UrlPath.segments names).text = front ++ '/' :: name) : names.getLast? = some name := by
  rcases List.eq_nil_or_concat names with rfl | ⟨others, last, rfl⟩
  · simp [UrlPath.text] at text
  · rw [List.concat_eq_append] at *
    have bareLast : '/' ∉ last := noSlash last (by simp)
    have ending : (UrlPath.segments [last]).text = '/' :: last := by simp [UrlPath.text]
    have cut := congrArg (parts '/') text
    rw [text_append, ending, parts_append, parts_append, parts_of_not_mem bareLast,
      parts_of_not_mem bare] at cut
    rw [List.getLast?_concat, (List.append_singleton_inj.mp cut).2]

theorem getLast?_withoutEmptyStart (names : List (List Char)) :
    (withoutEmptyStart names).getLast? = names.getLast? := by
  fun_induction withoutEmptyStart names with
  | case1 next others induction => rw [induction, List.getLast?_cons_cons]
  | case2 names _ => rfl

/-- Behind a segment of points there is nothing. -/
def lastName (file : Bool) (piece : List Char) : List Char :=
  if isDot piece || isTwoDots piece then [] else segment file piece

theorem getLast?_addEach (file : Bool) (done : List (List Char)) {pieces : List (List Char)}
    (filled : pieces ≠ []) :
    ∃ piece ∈ pieces, (addEach file done pieces).getLast? = some (lastName file piece) := by
  induction pieces generalizing done with
  | nil => contradiction
  | cons head tail induction =>
      cases tail with
      | nil =>
          refine ⟨head, List.mem_cons_self, ?_⟩
          cases twoDots : isTwoDots head with
          | true => simp [addEach, lastName, twoDots]
          | false => cases dot : isDot head <;> simp [addEach, lastName, twoDots, dot]
      | cons next others =>
          have later (done : List (List Char)) :
              ∃ piece ∈ head :: next :: others,
                (addEach file done (next :: others)).getLast? = some (lastName file piece) := by
            rcases induction done (List.cons_ne_nil _ _) with ⟨piece, member, last⟩
            exact ⟨piece, List.mem_cons_of_mem _ member, last⟩
          rw [addEach]
          split
          · exact later _
          · split
            · exact later _
            · exact later _

theorem getLast?_addSegments (file : Bool) (done : List (List Char)) {pieces : List (List Char)}
    (filled : pieces ≠ []) :
    ∃ piece ∈ pieces, (addSegments file done pieces).getLast? = some (lastName file piece) := by
  rcases getLast?_addEach file done filled with ⟨piece, member, last⟩
  refine ⟨piece, member, ?_⟩
  rw [addSegments]
  split
  · rw [getLast?_withoutEmptyStart, last]
  · exact last

theorem eq_of_driveSegment_ne {piece : List Char} (changed : driveSegment piece ≠ piece) :
    ∃ letter, isLetter letter = true ∧ piece = [letter, '|'] ∧
      driveSegment piece = [letter, ':'] := by
  unfold driveSegment at changed ⊢
  split at changed
  · next letter =>
      split at changed
      · next isLetter => exact ⟨letter, isLetter, rfl, if_pos isLetter⟩
      · exact absurd rfl changed
  · exact absurd rfl changed

/-- A drive letter is written with a colon, which the text did not have. -/
theorem driveSegment_of_decoded {special : Bool} {text piece : List Char}
    (member : piece ∈ parts '/' (partsOf special (tidied text)).front)
    (decoded : percentBytes (segment true piece) = bytesOf text) : driveSegment piece = piece := by
  -- A changed segment ends in a colon, and so does the text that it stands for. But it has as many
  -- bytes as before, so nothing was taken away from that text, which then ends in a bar.
  by_contra changed
  rcases eq_of_driveSegment_ne changed with ⟨letter, isLetter, rfl, drive⟩
  have kept : percentEncode keptInPath [letter, '|'] = [letter, '|'] := by
    apply percentEncode_of_all
    rw [List.forall_mem_cons, List.forall_mem_singleton]
    exact ⟨keptInPath_of_isLetter isLetter, by decide⟩
  have notPercent : letter ≠ '%' := by
    rintro rfl
    cases isLetter
  have asBytes : percentBytes [letter, ':'] = bytesOf [letter, ':'] := by
    rw [percentBytes_cons notPercent]
    rfl
  rw [segment, if_pos rfl, kept, drive, asBytes] at decoded
  have large : (bytesOf text).length ≤ (bytesOf [letter, '|']).length := by
    have sameSize : ':'.utf8Size = '|'.utf8Size := rfl
    rw [← decoded]
    exact Nat.le_of_eq (by simp [bytesOf, sameSize])
  have same := (eq_of_large_segment member large).1.trans (bytesOf_injective decoded).symm
  cases same

/-- Only a text that is one segment is what the last name of its path stands for. -/
theorem isOneSegment_of_decoded {special file : Bool} {text piece : List Char}
    (member : piece ∈ parts '/' (partsOf special (tidied text)).front)
    (decoded : decoded? (lastName file piece) = some text) : IsOneSegment special file text := by
  rw [decoded?_eq_some_iff, lastName] at decoded
  by_cases points : (isDot piece || isTwoDots piece) = true
  · rw [if_pos points] at decoded
    have empty : text = [] := bytesOf_injective decoded.symm
    have large : (bytesOf text).length ≤ (bytesOf piece).length := by
      rw [← decoded]
      exact Nat.zero_le _
    rw [(eq_of_large_segment member large).1, empty] at points
    cases points
  · rw [if_neg points] at decoded
    have noDrive : file = true → driveSegment piece = piece := by
      rintro rfl
      exact driveSegment_of_decoded member decoded
    have plain : percentBytes piece = bytesOf text := by
      rw [← decoded, segment_eq noDrive, percentBytes_percentEncode]
    have large : (bytesOf text).length ≤ (bytesOf piece).length := by
      rw [← plain]
      exact length_percentBytes_le piece
    rcases eq_of_large_segment member large with ⟨rfl, whole, noFragment, noQuery, noBackslash⟩
    rw [Bool.or_eq_true, not_or, Bool.not_eq_true, Bool.not_eq_true] at points
    exact {
      noSlash := not_mem_of_mem_parts member
      noBackslash := noBackslash
      noQuery := noQuery
      noFragment := noFragment
      noBreak := (noEdge_of_tidied whole).1
      noEdge := (noEdge_of_tidied whole).2
      noDot := points.1
      noTwoDots := points.2
      noDrive := noDrive
      plain := decoded?_eq_some_iff.mpr plain }

theorem isOneSegment_of_join {base url : Url} {dir : List (List Char)}
    (isDirectory : base.IsDirectory dir) (noSlash : ∀ name ∈ dir, '/' ∉ name)
    {front text : List Char} (lead : IsLead front)
    (joined : base.join? (front ++ '/' :: text) = some url)
    {before name : List Char} (bare : '/' ∉ name) (path : url.path.text = before ++ '/' :: name)
    (decoded : decoded? name = some text) :
    IsOneSegment (isSpecialScheme base.scheme) (isFileScheme base.scheme) text := by
  rw [join?_lead isDirectory lead] at joined
  cases joined
  have done : ∀ name ∈ dir ++ parts '/' front, '/' ∉ name := by
    rw [List.forall_mem_append]
    exact ⟨noSlash, fun name member => not_mem_of_mem_parts member⟩
  have last := getLast?_of_text (noSlash_addSegments done _) bare path
  rcases getLast?_addSegments (isFileScheme base.scheme) (dir ++ parts '/' front)
    (parts_ne_nil '/' (partsOf (isSpecialScheme base.scheme) (tidied text)).front)
    with ⟨piece, member, added⟩
  cases last.symm.trans added
  exact isOneSegment_of_decoded member decoded

end ExportWatch.Url
