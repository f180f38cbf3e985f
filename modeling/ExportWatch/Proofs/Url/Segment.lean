import ExportWatch.Proofs.Text.Digit
import ExportWatch.Proofs.Url.Decoded
import ExportWatch.Proofs.Url.Reference

/-! Texts that are one segment where they end a reference, and stand for themselves there. -/

namespace ExportWatch.Url

open Text

/-! Encoding a segment keeps what its text stands for. -/

theorem keptInPath_of_hexValue {character : Char} (digit : (hexValue character).isSome = true) :
    keptInPath character = true := by
  have bounds : 48 ≤ character.toNat ∧ character.toNat ≤ 102 := by
    unfold hexValue at digit
    split at digit
    · next decimal =>
        have range : 48 ≤ character.toNat ∧ character.toNat ≤ 57 := isDigit_iff.mp decimal
        omega
    · split at digit
      · next small =>
          rw [Bool.and_eq_true, decide_eq_true_eq, decide_eq_true_eq] at small
          have range : 97 ≤ character.toNat ∧ character.toNat ≤ 102 := small
          omega
      · split at digit
        · next capital =>
            rw [Bool.and_eq_true, decide_eq_true_eq, decide_eq_true_eq] at capital
            have range : 65 ≤ character.toNat ∧ character.toNat ≤ 70 := capital
            omega
        · cases digit
  have others {marks : List Char} (noDigit : ∀ mark ∈ marks, (hexValue mark).isSome = false) :
      marks.contains character = false :=
    @not_contains_of_kind (fun character => (hexValue character).isSome) _ digit _ noDigit
  rw [keptInPath, keptInFragment, isPlain, others (by decide), others (by decide)]
  simp
  omega

theorem head?_percentEncode (text : List Char) :
    (percentEncode keptInPath text).head?.any (fun head => (hexValue head).isSome) =
      text.head?.any (fun head => (hexValue head).isSome) := by
  cases text with
  | nil => rfl
  | cons head tail =>
      rw [percentEncode_cons]
      by_cases kept : keptInPath head = true
      · rw [if_pos kept]
        rfl
      · have noDigit : (hexValue head).isSome = false := by
          rw [← Bool.not_eq_true]
          exact fun digit => kept (keptInPath_of_hexValue digit)
        rcases percentCharacter_eq_cons head with ⟨rest, encoded⟩
        rw [if_neg kept, encoded, List.cons_append, List.head?_cons, List.head?_cons,
          Option.any_some, Option.any_some, noDigit]
        rfl

/-- Two hexadecimal digits come first. -/
def startsByte (text : List Char) : Bool :=
  text.head?.any (fun head => (hexValue head).isSome) &&
    text.tail.head?.any (fun head => (hexValue head).isSome)

theorem startsByte_percentEncode (text : List Char) :
    startsByte (percentEncode keptInPath text) = startsByte text := by
  rw [startsByte, startsByte, head?_percentEncode]
  cases text with
  | nil => rfl
  | cons head tail =>
      cases digit : (hexValue head).isSome with
      | false => simp [digit]
      | true =>
          rw [percentEncode_cons, if_pos (keptInPath_of_hexValue digit), List.singleton_append,
            List.tail_cons, List.tail_cons, head?_percentEncode]

theorem percentBytes_percent {text : List Char} (other : startsByte text = false) :
    Host.percentBytes ('%' :: text) = String.utf8EncodeChar '%' ++ Host.percentBytes text := by
  rcases text with _ | ⟨first, _ | ⟨second, rest⟩⟩
  · rfl
  · rfl
  · rw [startsByte, List.head?_cons, List.tail_cons, List.head?_cons, Option.any_some,
      Option.any_some] at other
    rw [Host.percentBytes]
    split
    · next firstDigit secondDigit =>
        rw [firstDigit, secondDigit] at other
        cases other
    · rfl

theorem percentBytes_percentEncode (text : List Char) :
    Host.percentBytes (percentEncode keptInPath text) = Host.percentBytes text := by
  have percent (tail : List Char) :
      percentEncode keptInPath ('%' :: tail) = '%' :: percentEncode keptInPath tail :=
    percentEncode_cons '%' tail
  -- Digits are kept and a percent sign is no digit, so in front of the encoded text there is a byte
  -- just when there was one before.
  fun_induction Host.percentBytes text with
  | case1 => rfl
  | case2 first second rest high low secondDigit firstDigit induction =>
      have keptFirst : keptInPath first = true := keptInPath_of_hexValue (by rw [firstDigit]; rfl)
      have keptSecond : keptInPath second = true :=
        keptInPath_of_hexValue (by rw [secondDigit]; rfl)
      rw [percent, percentEncode_cons, percentEncode_cons, if_pos keptFirst, if_pos keptSecond,
        List.singleton_append, List.singleton_append, Host.percentBytes, firstDigit, secondDigit,
        ← induction]
  | case3 first second rest notDigits induction =>
      have other : startsByte (first :: second :: rest) = false := by
        rw [← Bool.not_eq_true]
        intro both
        rw [startsByte, Bool.and_eq_true, List.head?_cons, List.tail_cons, List.head?_cons,
          Option.any_some, Option.any_some, Option.isSome_iff_exists,
          Option.isSome_iff_exists] at both
        rcases both with ⟨⟨high, firstDigit⟩, low, secondDigit⟩
        exact notDigits high low firstDigit secondDigit
      rw [percent, percentBytes_percent (by rw [startsByte_percentEncode, other]), induction]
  | case4 head tail short induction =>
      by_cases mark : head = '%'
      · subst mark
        have other : startsByte tail = false := by
          rcases tail with _ | ⟨first, _ | ⟨second, rest⟩⟩
          · rfl
          · simp [startsByte]
          · exact absurd rfl (short first second rest rfl)
        rw [percent, percentBytes_percent (by rw [startsByte_percentEncode, other]), induction]
      · rw [percentEncode_cons]
        split
        · rw [List.singleton_append, Host.percentBytes_cons mark, induction]
        · rw [Host.percentBytes_percentCharacter, induction]

theorem driveSegment_of_percent {text : List Char} (member : '%' ∈ text) :
    driveSegment text = text := by
  unfold driveSegment
  split
  · next letter =>
      rw [if_neg]
      intro isLetter
      rw [List.mem_cons, List.mem_singleton] at member
      rcases member with rfl | mark
      · cases isLetter
      · cases mark
  · rfl

theorem driveSegment_percentEncode {keeps : Char → Bool} {text : List Char}
    (noDrive : driveSegment text = text) :
    driveSegment (percentEncode keeps text) = percentEncode keeps text := by
  by_cases member : '%' ∈ percentEncode keeps text
  · exact driveSegment_of_percent member
  · rw [percentEncode_eq_self member, noDrive]

theorem segment_eq {file : Bool} {text : List Char}
    (noDrive : file = true → driveSegment text = text) :
    segment file text = percentEncode keptInPath text := by
  rw [segment]
  split
  · next isFile => exact driveSegment_percentEncode (noDrive isFile)
  · rfl

/-! Segments. -/

/-- Nothing in the text ends a path or leads to another place, nothing is dropped from it, and it
is not the code of another text. -/
structure IsOneSegment (special file : Bool) (text : List Char) : Prop where
  noSlash : '/' ∉ text
  noBackslash : special = true → '\\' ∉ text
  noQuery : '?' ∉ text
  noFragment : '#' ∉ text
  noBreak : ∀ character ∈ text, isBreak character = false
  noEdge : ∀ last ∈ text.getLast?, isEdge last = false
  noDot : isDot text = false
  noTwoDots : isTwoDots text = false
  noDrive : file = true → driveSegment text = text
  plain : Host.decoded? text = some text

theorem isOneSegment_iff {special file : Bool} {text : List Char} :
    IsOneSegment special file text ↔
      ('/' ∉ text ∧ '?' ∉ text ∧ '#' ∉ text ∧ (special = true → '\\' ∉ text)) ∧
        (∀ character ∈ text, isBreak character = false) ∧
        (∀ last ∈ text.getLast?, isEdge last = false) ∧
        (isDot text = false ∧ isTwoDots text = false ∧
          (file = true → driveSegment text = text)) ∧
        Host.percentBytes text = Host.bytesOf text := by
  constructor
  · intro one
    exact ⟨⟨one.noSlash, one.noQuery, one.noFragment, one.noBackslash⟩, one.noBreak, one.noEdge,
      ⟨one.noDot, one.noTwoDots, one.noDrive⟩, Host.decoded?_eq_some_iff.mp one.plain⟩
  · rintro ⟨⟨noSlash, noQuery, noFragment, noBackslash⟩, noBreak, noEdge, ⟨noDot, noTwoDots,
      noDrive⟩, plain⟩
    exact ⟨noSlash, noBackslash, noQuery, noFragment, noBreak, noEdge, noDot, noTwoDots, noDrive,
      Host.decoded?_eq_some_iff.mpr plain⟩

instance (special file : Bool) (text : List Char) : Decidable (IsOneSegment special file text) :=
  decidable_of_iff _ isOneSegment_iff.symm

example : IsOneSegment true false "a b%zz".toList := by decide
example : ¬ IsOneSegment true false "%2E".toList := by decide

namespace IsOneSegment

variable {special file : Bool} {text : List Char} (one : IsOneSegment special file text)
include one

theorem tidied_eq : tidied text = text := by
  have lastKept : ∀ head ∈ text.reverse.head?, isEdge head = false := by
    rw [List.head?_reverse]
    exact one.noEdge
  rw [tidied, dropWhile_of_head lastKept, List.reverse_reverse, filter_noBreak one.noBreak]

theorem partsOf_eq : partsOf special text = ⟨text, none, none⟩ := by
  have atHash : splitAt '#' text = (text, none) := by
    rw [splitAt, cutAt_of_not_mem one.noFragment]
  have atQuestion : splitAt '?' text = (text, none) := by
    rw [splitAt, cutAt_of_not_mem one.noQuery]
  have noBackslash := one.noBackslash
  simp only [partsOf, atHash, atQuestion]
  cases special with
  | false => rfl
  | true => simp [map_slash_of_not_mem (noBackslash rfl)]

theorem addEach_eq (done : List (List Char)) :
    addEach file done (parts '/' text) = done ++ [segment file text] := by
  rw [parts_of_not_mem one.noSlash, addEach, one.noDot, one.noTwoDots]
  rfl

theorem decoded?_segment : Host.decoded? (segment file text) = some text := by
  have plain := one.plain
  rw [Host.decoded?_eq_some_iff] at plain ⊢
  rw [segment_eq one.noDrive, percentBytes_percentEncode, plain]

end IsOneSegment

/-- The address at another path of the same server. -/
def atPath (url : Url) (names : List (List Char)) : Url :=
  { url with path := .segments names, query := none, fragment := none }

theorem join?_segment {base : Url} {dir : List (List Char)} (isDirectory : base.IsDirectory dir)
    {front text : List Char} (lead : IsLead front)
    (one : IsOneSegment (isSpecialScheme base.scheme) (isFileScheme base.scheme) text) :
    base.join? (front ++ '/' :: text) =
      some (base.atPath (dir ++ parts '/' front ++ [segment (isFileScheme base.scheme) text])) := by
  rw [join?_lead isDirectory lead, one.tidied_eq, one.partsOf_eq, addSegments, one.addEach_eq]
  cases file : isFileScheme base.scheme with
  | false => rfl
  | true =>
      rw [if_pos rfl, withoutEmptyStart_lead isDirectory file lead]
      rfl

end ExportWatch.Url
