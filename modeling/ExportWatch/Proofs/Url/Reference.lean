import ExportWatch.Proofs.Text.Blank
import ExportWatch.Proofs.Url.Directory

/-! References that begin with plain names: below an address whose path ends in a slash they lead
to the same server, and on from that path. -/

namespace ExportWatch.Url

open Text

/-! Names of letters only stay as they are. -/

theorem toNat_of_isLetter {character : Char} (letter : isLetter character = true) :
    65 ≤ character.toNat ∧ character.toNat ≤ 122 := by
  simp only [isLetter, Bool.or_eq_true, Bool.and_eq_true, decide_eq_true_eq] at letter
  rcases letter with ⟨least, greatest⟩ | ⟨least, greatest⟩
  · have bounds : 97 ≤ character.toNat ∧ character.toNat ≤ 122 := ⟨least, greatest⟩
    omega
  · have bounds : 65 ≤ character.toNat ∧ character.toNat ≤ 90 := ⟨least, greatest⟩
    omega

theorem isLetter_toSmall {character : Char} (letter : isLetter character = true) :
    isLetter (toSmall character) = true := by
  have lowered : ∀ code < 26, isLetter (Char.ofNat (65 + code + 32)) = true := by decide
  rw [toSmall]
  split
  · next capital =>
      simp only [Bool.and_eq_true, decide_eq_true_eq] at capital
      have least : 65 ≤ character.toNat := capital.1
      have greatest : character.toNat ≤ 90 := capital.2
      have small := lowered (character.toNat - 65) (by omega)
      rwa [show 65 + (character.toNat - 65) = character.toNat by omega] at small
  · exact letter

theorem not_contains_of_kind {kind : Char → Bool} {character : Char}
    (own : kind character = true) {marks : List Char}
    (others : ∀ mark ∈ marks, kind mark = false) : marks.contains character = false := by
  rw [List.contains_eq_mem, decide_eq_false_iff_not]
  intro member
  rw [others character member] at own
  cases own

theorem keptInPath_of_isLetter {character : Char} (letter : isLetter character = true) :
    keptInPath character = true := by
  have bounds := toNat_of_isLetter letter
  rw [keptInPath, keptInFragment, isPlain, not_contains_of_kind letter (by decide),
    not_contains_of_kind letter (by decide)]
  simp
  omega

theorem driveSegment_of_not_drive {name : List Char} (other : isDrive name = false) :
    driveSegment name = name := by
  unfold driveSegment
  split
  · next letter =>
      rw [if_neg]
      simpa [isDrive] using other
  · rfl

section Letters

variable {name : List Char} (letters : ∀ character ∈ name, isLetter character = true)
include letters

theorem not_contains_small {texts : List String}
    (others : ∀ text ∈ texts, text.toList.all isLetter = false) :
    texts.contains (String.ofList (name.map toSmall)) = false := by
  rw [List.contains_eq_mem, decide_eq_false_iff_not]
  intro member
  have other := others _ member
  rw [String.toList_ofList, List.all_map, List.all_eq_false] at other
  rcases other with ⟨character, inside, notLetter⟩
  exact notLetter (isLetter_toSmall (letters character inside))

theorem isDot_of_letters : isDot name = false :=
  not_contains_small letters (by decide)

theorem isTwoDots_of_letters : isTwoDots name = false :=
  not_contains_small letters (by decide)

theorem isDrive_of_letters : isDrive name = false := by
  unfold isDrive
  split
  · next letter mark =>
      have second : [':', '|'].contains mark = false :=
        not_contains_of_kind (letters mark (by simp)) (by decide)
      simp_all
  · rfl

theorem segment_of_letters (file : Bool) : segment file name = name := by
  have kept : ∀ character ∈ name, keptInPath character = true :=
    fun character member => keptInPath_of_isLetter (letters character member)
  rw [segment, percentEncode_of_all kept, driveSegment_of_not_drive (isDrive_of_letters letters),
    ite_self]

end Letters

/-! References that begin with such names. -/

/-- Letters and slashes, with a letter in front. -/
structure IsLead (front : List Char) : Prop where
  filled : front ≠ []
  plain : ∀ character ∈ front, isLetter character = true ∨ character = '/'
  start : ∀ head ∈ front.head?, head ≠ '/'

theorem IsLead.not_mem {front : List Char} {mark : Char} (lead : IsLead front)
    (notLetter : isLetter mark = false) (notSlash : mark ≠ '/') : mark ∉ front := by
  intro member
  rcases lead.plain mark member with letter | slash
  · rw [notLetter] at letter
    cases letter
  · exact notSlash slash

/-- What is left of the end of a reference. -/
def tidied (text : List Char) : List Char :=
  ((text.reverse.dropWhile isEdge).reverse).filter (!isBreak ·)

theorem isEdge_of_isLead {character : Char} (plain : isLetter character = true ∨ character = '/') :
    isEdge character = false := by
  rcases plain with letter | rfl
  · have bounds := toNat_of_isLetter letter
    rw [isEdge, decide_eq_false_iff_not]
    omega
  · rfl

theorem isBreak_of_isEdge {character : Char} (notEdge : isEdge character = false) :
    isBreak character = false := by
  cases lineBreak : isBreak character with
  | false => rfl
  | true =>
      simp only [isBreak, Bool.or_eq_true, decide_eq_true_eq] at lineBreak
      rcases lineBreak with (rfl | rfl) | rfl <;> cases notEdge

theorem filter_noBreak {text : List Char}
    (noBreak : ∀ character ∈ text, isBreak character = false) :
    text.filter (!isBreak ·) = text := by
  rw [List.filter_eq_self]
  intro character member
  rw [noBreak character member]
  rfl

theorem cleaned_lead {front : List Char} (lead : IsLead front) (rest : List Char) :
    cleaned (front ++ '/' :: rest) = front ++ '/' :: tidied rest := by
  have notEdge : ∀ head ∈ (front ++ '/' :: rest).head?, isEdge head = false := by
    intro head first
    rw [List.head?_append_of_ne_nil _ lead.filled] at first
    exact isEdge_of_isLead (lead.plain head (List.mem_of_mem_head? first))
  have kept : front.filter (!isBreak ·) = front :=
    filter_noBreak fun character member =>
      isBreak_of_isEdge (isEdge_of_isLead (lead.plain character member))
  have slash : isEdge '/' = false ∧ isBreak '/' = false := by decide
  have reversed : (front ++ '/' :: rest).reverse = rest.reverse ++ '/' :: front.reverse := by simp
  rw [cleaned, dropWhile_of_head notEdge, reversed, dropWhile_append_cons slash.1]
  simp [kept, slash.2, tidied]

theorem scheme?_lead {front : List Char} (lead : IsLead front) (text : List Char) :
    scheme? (front ++ '/' :: text) = none := by
  have bare : ':' ∉ front := lead.not_mem (by decide) (by decide)
  by_cases member : ':' ∈ text
  · rcases List.eq_append_cons_of_mem member with ⟨before, after, rfl, bareBefore⟩
    have absent : ':' ∉ front ++ '/' :: before := by
      simp [bare, bareBefore]
    have shape : front ++ '/' :: (before ++ ':' :: after) =
        (front ++ '/' :: before) ++ ':' :: after := by simp
    have slash : isSchemeCharacter '/' = false := by decide
    rw [scheme?, shape, cutAt_append absent]
    rcases front with _ | ⟨first, others⟩
    · exact absurd rfl lead.filled
    · simp [slash]
  · have absent : ':' ∉ front ++ '/' :: text := by
      simp [bare, member]
    rw [scheme?, cutAt_of_not_mem absent]

theorem splitAt_append {mark : Char} {before : List Char} (absent : mark ∉ before)
    (text : List Char) :
    splitAt mark (before ++ text) = (before ++ (splitAt mark text).1, (splitAt mark text).2) := by
  by_cases member : mark ∈ text
  · rcases List.eq_append_cons_of_mem member with ⟨front, after, rfl, bareFront⟩
    have bareBoth : mark ∉ before ++ front := List.not_mem_append absent bareFront
    rw [splitAt, ← List.append_assoc, cutAt_append bareBoth, splitAt, cutAt_append bareFront]
  · have bareBoth : mark ∉ before ++ text := List.not_mem_append absent member
    rw [splitAt, cutAt_of_not_mem bareBoth, splitAt, cutAt_of_not_mem member]

theorem splitAt_lead {front : List Char} (lead : IsLead front) {mark : Char}
    (notLetter : isLetter mark = false) (notSlash : mark ≠ '/') (text : List Char) :
    splitAt mark (front ++ '/' :: text) =
      (front ++ '/' :: (splitAt mark text).1, (splitAt mark text).2) := by
  have bare : mark ∉ front ++ ['/'] := by
    simpa [notSlash] using lead.not_mem notLetter notSlash
  simpa using splitAt_append bare text

theorem map_slash_of_not_mem {text : List Char} (absent : '\\' ∉ text) :
    text.map (fun character => if character = '\\' then '/' else character) = text := by
  have same : ∀ character ∈ text, (if character = '\\' then '/' else character) = id character := by
    intro character member
    rw [if_neg, id]
    rintro rfl
    exact absent member
  rw [List.map_congr_left same, List.map_id]

theorem partsOf_lead {front : List Char} (lead : IsLead front) (special : Bool) (text : List Char) :
    partsOf special (front ++ '/' :: text) =
      { partsOf special text with front := front ++ '/' :: (partsOf special text).front } := by
  have kept := map_slash_of_not_mem (@IsLead.not_mem front '\\' lead (by decide) (by decide))
  have atHash := @splitAt_lead _ lead '#' (by decide) (by decide) text
  have atQuestion := @splitAt_lead _ lead '?' (by decide) (by decide) (splitAt '#' text).1
  simp only [partsOf, atHash, atQuestion]
  cases special <;> simp [kept]

theorem IsLead.append_ne {front : List Char} (lead : IsLead front) (text rest : List Char) :
    front ++ text ≠ '/' :: rest := by
  rcases front with _ | ⟨head, tail⟩
  · exact absurd rfl lead.filled
  · exact fun same => lead.start head rfl (List.cons.inj same).1

theorem IsLead.letters_of_mem {front name : List Char} (lead : IsLead front)
    (member : name ∈ parts '/' front) : ∀ character ∈ name, isLetter character = true := by
  intro character inside
  rcases lead.plain character ((sublist_of_mem_parts member).subset inside) with letter | rfl
  · exact letter
  · exact absurd inside (not_mem_of_mem_parts member)

theorem addEach_letters {names : List (List Char)}
    (letters : ∀ name ∈ names, ∀ character ∈ name, isLetter character = true) (file : Bool)
    (done others : List (List Char)) :
    addEach file done (names ++ others) = addEach file (done ++ names) others := by
  induction names generalizing done with
  | nil => rw [List.nil_append, List.append_nil]
  | cons head tail induction =>
      rw [List.forall_mem_cons] at letters
      rw [List.cons_append, addEach, isTwoDots_of_letters letters.1, isDot_of_letters letters.1,
        segment_of_letters letters.1, if_neg Bool.false_ne_true, if_neg Bool.false_ne_true,
        induction letters.2, List.append_assoc, List.singleton_append]

theorem addSegments_lead {front : List Char} (lead : IsLead front) (file : Bool)
    (done : List (List Char)) (rest : List Char) :
    addSegments file done (parts '/' (front ++ '/' :: rest)) =
      addSegments file (done ++ parts '/' front) (parts '/' rest) := by
  have passed := addEach_letters (fun name member => lead.letters_of_mem member) file done
    (parts '/' rest)
  rw [addSegments, parts_append, passed, addSegments]

theorem startsWithDrive_lead {front : List Char} (lead : IsLead front) (rest : List Char) :
    startsWithDrive (front ++ '/' :: rest) = false := by
  apply isDrive_of_letters
  intro character member
  have notSlash := List.mem_takeWhile_imp member
  have inFront : character ∈ front := by
    rw [List.takeWhile_append, List.takeWhile_cons_of_neg (by simp), List.append_nil] at member
    split at member
    · exact member
    · exact (List.takeWhile_prefix _).subset member
  rcases lead.plain character inFront with letter | rfl
  · exact letter
  · simp at notSlash

theorem resolve?_lead {base : Url} {dir : List (List Char)} (isDirectory : base.IsDirectory dir)
    {front : List Char} (lead : IsLead front) (text : List Char) :
    base.resolve? (front ++ '/' :: text) =
      some (base.withPath (partsOf (isSpecialScheme base.scheme) text) false
        (addSegments (isFileScheme base.scheme) (dir ++ parts '/' front)
          (parts '/' (partsOf (isSpecialScheme base.scheme) text).front))) := by
  have start : above (dir ++ [[]]) = dir := by simp [above, isDrive]
  simp only [resolve?, partsOf_lead lead, isDirectory.path]
  -- The other kinds of references are empty or begin with a slash.
  split
  · next empty => simp at empty
  · next same => exact absurd same (lead.append_ne _ _)
  · next same => exact absurd same (lead.append_ne _ _)
  · simp only [startsWithDrive_lead lead, addSegments_lead lead, Bool.and_false, start,
      List.dropLast_concat, ite_self, Bool.false_eq_true, if_false]
    rfl

theorem join?_lead {base : Url} {dir : List (List Char)} (isDirectory : base.IsDirectory dir)
    {front : List Char} (lead : IsLead front) (rest : List Char) :
    base.join? (front ++ '/' :: rest) =
      some (base.withPath (partsOf (isSpecialScheme base.scheme) (tidied rest)) false
        (addSegments (isFileScheme base.scheme) (dir ++ parts '/' front)
          (parts '/' (partsOf (isSpecialScheme base.scheme) (tidied rest)).front))) := by
  have resolved := resolve?_lead isDirectory lead (tidied rest)
  rw [join?, readIn?, cleaned_lead lead, scheme?_lead lead]
  exact resolved

theorem IsLead.head?_parts {front : List Char} (lead : IsLead front) :
    (parts '/' front).head? ≠ some [] := by
  intro empty
  rcases front with _ | ⟨head, tail⟩
  · exact lead.filled rfl
  · rw [parts, if_neg (lead.start head rfl)] at empty
    split at empty <;> cases empty

theorem withoutEmptyStart_lead {base : Url} {dir : List (List Char)}
    (isDirectory : base.IsDirectory dir) (file : isFileScheme base.scheme = true)
    {front : List Char} (lead : IsLead front) (others : List (List Char)) :
    withoutEmptyStart (dir ++ parts '/' front ++ others) = dir ++ parts '/' front ++ others := by
  apply withoutEmptyStart_of_head
  have filled : parts '/' front ≠ [] := parts_ne_nil '/' front
  rcases dir with _ | ⟨first, names⟩
  · rw [List.nil_append, List.head?_append_of_ne_nil _ filled]
    exact lead.head?_parts
  · exact isDirectory.rooted file

end ExportWatch.Url
