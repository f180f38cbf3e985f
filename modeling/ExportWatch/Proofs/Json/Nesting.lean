import ExportWatch.Proofs.Decimal.NotANumber
import ExportWatch.Proofs.Json.Decoded

/-! Whatever the text, the node that is read from it has room for its containers, its
whole numbers fit a word, and its doubles are numbers. Each token keeps this of
everything read so far. -/

namespace ExportWatch.Json

open Text

/-! Whole numbers of tokens. -/

theorem Numeral.absorb_le {start : Nat} (fits : start ≤ Decimal.word64Limit) (digits : List Char) :
    (absorb start digits).1 ≤ Decimal.word64Limit := by
  induction digits generalizing start with
  | nil => exact fits
  | cons head tail induction =>
      rw [absorb]
      split
      · next longer => exact induction longer
      · exact fits

theorem Numeral.inWord_of_value {numeral : Numeral} {whole : Int}
    (value : numeral.value = .ok (.whole whole)) : InWord whole := by
  have fits := absorb_le (Nat.zero_le Decimal.word64Limit) numeral.whole
  unfold Numeral.value at value
  rcases absorb 0 numeral.whole with ⟨size, extra⟩
  simp only [Decimal.word64Limit, Nat.pow_eq] at fits
  simp only [] at value
  split at value
  · split at value
    · cases value
      rw [inWord_iff]
      omega
    · split at value
      · next small =>
          cases value
          rw [Nat.pow_eq] at small
          rw [inWord_iff]
          omega
      · cases value
  · rcases map_eq_ok_iff.mp value with ⟨real, -, impossible⟩
    cases impossible

/-! Doubles of tokens. A significand is a number, and so is all that it is scaled to. -/

theorem Numeral.powerOfTen_regular :
    ∀ exponent ≤ 308, Decimal.isFinite (powerOfTen exponent) = true ∧
      (powerOfTen exponent == 0) = false := by
  decide +kernel

theorem Numeral.isNaN_scaleDown {value : Float} (number : value.isNaN = false)
    (fuel exponent : Nat) : (scaleDown fuel value exponent).isNaN = false := by
  induction fuel generalizing value exponent with
  | zero => exact number
  | succ fuel induction =>
      rw [scaleDown]
      split
      · next small =>
          rcases powerOfTen_regular exponent small with ⟨finite, filled⟩
          exact Decimal.isNaN_div number finite filled
      · split
        · exact number
        · rcases powerOfTen_regular 308 (Nat.le_refl _) with ⟨finite, filled⟩
          exact induction (Decimal.isNaN_div number finite filled) _

theorem Numeral.isNaN_of_scale {significand : Nat} {exponent : Int} {value : Float}
    (scaled : scale significand exponent = .ok value) : value.isNaN = false := by
  have number := Decimal.isNaN_toFloat significand.toUInt64
  unfold scale at scaled
  simp only [] at scaled
  split at scaled
  · cases scaled
    exact isNaN_scaleDown number _ _
  · split at scaled
    · split at scaled
      · next finite =>
          cases scaled
          exact Decimal.isNaN_of_isFinite finite
      · cases scaled
    · split at scaled
      · cases scaled
        exact number
      · cases scaled

theorem Numeral.isNaN_of_real {numeral : Numeral} {significand : Nat} {exponent : Int}
    {value : Float} (read : numeral.real significand exponent = .ok value) :
    value.isNaN = false := by
  have signed {size : Float} (number : size.isNaN = false) :
      (if numeral.negative then -size else size).isNaN = false := by
    split
    · exact Decimal.isNaN_neg number
    · exact number
  unfold real at read
  simp only [] at read
  split at read
  · rcases map_eq_ok_iff.mp read with ⟨size, scaled, rfl⟩
    exact signed (isNaN_of_scale scaled)
  · split at read
    · split at read
      · cases read
      · cases read
        exact signed (by decide)
    · rcases map_eq_ok_iff.mp read with ⟨size, scaled, rfl⟩
      exact signed (isNaN_of_scale scaled)

theorem Numeral.isNaN_of_value {numeral : Numeral} {double : Float}
    (value : numeral.value = .ok (.real double)) : double.isNaN = false := by
  unfold Numeral.value at value
  rcases absorb 0 numeral.whole with ⟨size, extra⟩
  simp only [] at value
  split at value
  · split at value
    · cases value
    · split at value
      · cases value
      · cases value
        exact Decimal.isNaN_neg (Decimal.isNaN_toFloat _)
  · rcases map_eq_ok_iff.mp value with ⟨real, read, same⟩
    cases same
    exact isNaN_of_real read

def Token.Fits : Token → Prop
  | .number (.ok value) => value.Fits
  | _ => True

theorem Numeral.fits_value (numeral : Numeral) : (Token.number numeral.value).Fits := by
  cases value : numeral.value with
  | error fault => trivial
  | ok number =>
      cases number with
      | whole whole => exact inWord_of_value value
      | real double => exact isNaN_of_value value

theorem fits_of_mem_tokens (text : List Char) : ∀ token ∈ tokens text, token.Fits := by
  fun_induction tokens text with
  | case11 =>
      rename_i numeral rest read induction
      exact List.forall_mem_cons.mpr ⟨numeral.fits_value, induction⟩
  | _ => simp_all [Token.Fits]

/-! The parts of a container that stands in other containers have the room that those
leave. -/

def roomIn (frames : List Frame) : Nat :=
  depthLimit - frames.length

def Frame.Fits (room : Nat) : Frame → Prop
  | .items done => ∀ node ∈ done, node.Fits room
  | .members done _ => ∀ member ∈ done, member.2.Fits room

def FramesFit : List Frame → Prop
  | [] => True
  | frame :: outer => frame.Fits (roomIn (frame :: outer)) ∧ FramesFit outer

def Reading.Fits : Reading → Prop
  | beforeValue _ frames => FramesFit frames
  | beforeKey _ done frames => FramesFit (.members done (.ok []) :: frames)
  | beforeColon done key frames => FramesFit (.members done key :: frames)
  | afterValue node frames => node.Fits (roomIn frames) ∧ FramesFit frames
  | finished document => document.node.Fits depthLimit

/-- A container that has no room is marked as one that cannot be read. -/
theorem fits_atDepth {outer : List Frame} {node : Node}
    (fits : 0 < roomIn outer → node.Fits (roomIn outer)) :
    (atDepth outer node).Fits (roomIn outer) := by
  unfold atDepth
  split
  · next room => exact fits (Nat.sub_pos_of_lt room)
  · trivial

theorem fits_array {room : Nat} {items : List Node} (ending : Option Fault) (positive : 0 < room)
    (fits : ∀ item ∈ items, item.Fits (room - 1)) : (Node.array items ending).Fits room :=
  ⟨positive, itemsFit_iff.mpr fits⟩

theorem fits_object {room : Nat} {members : List (Key × Node)} (ending : Option Fault)
    (positive : 0 < room) (fits : ∀ member ∈ members, member.2.Fits (room - 1)) :
    (Node.object members ending).Fits room :=
  ⟨positive, membersFit_iff.mpr fits⟩

theorem forall_mem_reverse_append {α : Type} {holds : α → Prop} {done : List α} {last : α}
    (before : ∀ part ∈ done, holds part) (holdsLast : holds last) :
    ∀ part ∈ done.reverse ++ [last], holds part := by
  intro part member
  rcases List.mem_append.mp member with earlier | final
  · exact before part (List.mem_reverse.mp earlier)
  · exact List.mem_singleton.mp final ▸ holdsLast

theorem fits_array_atDepth {outer : List Frame} {done : List Node} {node : Node}
    (ending : Option Fault) (before : (Frame.items done).Fits (roomIn outer - 1))
    (fits : node.Fits (roomIn outer - 1)) :
    (atDepth outer (.array (done.reverse ++ [node]) ending)).Fits (roomIn outer) :=
  fits_atDepth fun positive =>
    fits_array ending positive (forall_mem_reverse_append before fits)

theorem fits_object_atDepth {outer : List Frame} {done : List (Key × Node)} {key : Key}
    {node : Node}
    (ending : Option Fault) (before : (Frame.members done key).Fits (roomIn outer - 1))
    (fits : node.Fits (roomIn outer - 1)) :
    (atDepth outer (.object (done.reverse ++ [(key, node)]) ending)).Fits (roomIn outer) :=
  fits_atDepth fun positive =>
    fits_object ending positive (forall_mem_reverse_append before fits)

theorem fits_closeAround {node : Node} {frames : List Frame} (fits : node.Fits (roomIn frames))
    (framesFit : FramesFit frames) : (closeAround node frames).Fits depthLimit := by
  induction frames generalizing node with
  | nil => exact fits
  | cons frame outer induction =>
      rcases framesFit with ⟨frameFits, outerFit⟩
      apply induction _ outerFit
      cases frame with
      | items done => exact fits_array_atDepth none frameFits fits
      | members done key => exact fits_object_atDepth none frameFits fits

theorem fits_failSeparator {node : Node} {frames : List Frame} (fault : Fault)
    (fits : node.Fits (roomIn frames)) (framesFit : FramesFit frames) :
    (Reading.failSeparator node fault frames).Fits := by
  rcases frames with _ | ⟨_ | _, outer⟩
  · exact fits
  · exact fits_closeAround (fits_array_atDepth _ framesFit.1 fits) framesFit.2
  · exact fits_closeAround (fits_object_atDepth _ framesFit.1 fits) framesFit.2

theorem fits_fail {node : Node} {frames : List Frame} (fits : node.Fits (roomIn frames))
    (framesFit : FramesFit frames) : (Reading.fail node frames).Fits :=
  fits_closeAround fits framesFit

theorem fits_stepValue {frames : List Frame} {token : Token} (canClose : Bool)
    (framesFit : FramesFit frames) (fits : token.Fits) :
    (Reading.stepValue canClose frames token).Fits := by
  cases token with
  | openObject => exact ⟨nofun, framesFit⟩
  | openArray => exact ⟨nofun, framesFit⟩
  | closeArray =>
      simp only [Reading.stepValue]
      split
      · exact ⟨fits_atDepth fun positive => fits_array none positive nofun, framesFit.2⟩
      · next done outer _ =>
          apply fits_fail _ framesFit.2
          exact fits_atDepth fun positive => fits_array _ positive fun item member =>
            framesFit.1 item (List.mem_reverse.mp member)
      · exact fits_fail trivial framesFit
  | number value =>
      refine ⟨?_, framesFit⟩
      cases value with
      | error fault => trivial
      | ok number => exact fits
  | null | bool value | text content => exact ⟨trivial, framesFit⟩
  | word fault | broken fault => exact fits_fail trivial framesFit
  | closeObject | colon | comma | stray => exact fits_fail trivial framesFit

theorem fits_stepKey {done : List (Key × Node)} {frames : List Frame} (canClose : Bool)
    (framesFit : FramesFit (.members done (.ok []) :: frames)) (token : Token) :
    (Reading.stepKey canClose done frames token).Fits := by
  have closed : ∀ fault, (Reading.failMember done fault frames).Fits := by
    intro fault
    have opened : FramesFit (.members done (.error fault) :: frames) := framesFit
    exact fits_closeAround trivial opened
  cases token with
  | text content => exact framesFit
  | closeObject =>
      cases canClose with
      | false => exact closed .malformed
      | true =>
          exact ⟨fits_atDepth fun positive => fits_object none positive nofun, framesFit.2⟩
  | broken fault => exact closed fault
  | _ => exact closed .malformed

theorem fits_stepColon {done : List (Key × Node)} {key : Key} {frames : List Frame}
    (framesFit : FramesFit (.members done key :: frames)) (token : Token) :
    (Reading.stepColon done key frames token).Fits := by
  cases token with
  | colon => exact framesFit
  | broken fault => exact fits_fail trivial framesFit
  | _ => exact fits_fail trivial framesFit

theorem fits_stepSeparator {node : Node} {frames : List Frame} (token : Token)
    (fits : node.Fits (roomIn frames)) (framesFit : FramesFit frames) :
    (Reading.stepSeparator node frames token).Fits := by
  unfold Reading.stepSeparator
  split
  · exact ⟨List.forall_mem_cons.mpr ⟨fits, framesFit.1⟩, framesFit.2⟩
  · exact ⟨List.forall_mem_cons.mpr ⟨fits, framesFit.1⟩, framesFit.2⟩
  · exact ⟨fits_array_atDepth none framesFit.1 fits, framesFit.2⟩
  · exact ⟨fits_object_atDepth none framesFit.1 fits, framesFit.2⟩
  · exact fits_failSeparator _ fits framesFit
  · exact fits_failSeparator _ fits framesFit

theorem fits_step {reading : Reading} {token : Token} (readingFits : reading.Fits)
    (fits : token.Fits) : (reading.step token).Fits := by
  cases reading with
  | beforeValue canClose frames => exact fits_stepValue canClose readingFits fits
  | beforeKey canClose done frames => exact fits_stepKey canClose readingFits token
  | beforeColon done key frames => exact fits_stepColon readingFits token
  | afterValue node frames => exact fits_stepSeparator token readingFits.1 readingFits.2
  | finished document => exact readingFits

theorem fits_document {reading : Reading} (fits : reading.Fits) :
    reading.document.node.Fits depthLimit := by
  cases reading with
  | beforeValue canClose frames => exact fits_closeAround trivial fits
  | beforeKey canClose done frames =>
      have opened : FramesFit (.members done (.error .truncated) :: frames) := fits
      exact fits_closeAround trivial opened
  | beforeColon done key frames => exact fits_closeAround trivial fits
  | afterValue node frames =>
      rcases frames with _ | ⟨_ | _, outer⟩
      · exact fits.1
      · exact fits_closeAround (fits_array_atDepth _ fits.2.1 fits.1) fits.2.2
      · exact fits_closeAround (fits_object_atDepth _ fits.2.1 fits.1) fits.2.2
  | finished document => exact fits

theorem fits_foldl {tokens : List Token} {reading : Reading} (readingFits : reading.Fits)
    (fits : ∀ token ∈ tokens, token.Fits) : (tokens.foldl Reading.step reading).Fits := by
  induction tokens generalizing reading with
  | nil => exact readingFits
  | cons head tail induction =>
      exact induction (fits_step readingFits (fits head List.mem_cons_self))
        fun token member => fits token (List.mem_cons_of_mem _ member)

/-- Whatever the text, its node has room for its containers. -/
theorem fits_readDocument (text : List Char) : (readDocument text).node.Fits depthLimit :=
  fits_document (fits_foldl trivial (fits_of_mem_tokens text))

end ExportWatch.Json
