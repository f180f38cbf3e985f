import ExportWatch.Json.Value

/-! The lexical level of JSON. Some texts and numbers are well-formed but have no
value: a lone surrogate, a number out of range. Such a token holds the fault in
place of its value, because a reader that skips the token does not meet it. A
token that cannot even be skipped is the last one before `broken`. -/

namespace ExportWatch.Json

open Text

inductive Fault where
  | malformed
  | truncated
  | mismatch
  deriving DecidableEq, Repr

inductive Token where
  | openObject
  | closeObject
  | openArray
  | closeArray
  | colon
  | comma
  | null
  | bool (value : Bool)
  | number (value : Except Fault Number)
  | text (content : Except Fault (List Char))
  | word (fault : Fault)
  | stray
  | broken (fault : Fault)
  deriving Repr

def isSpace (character : Char) : Bool :=
  character = ' ' || character = '\n' || character = '\t' || character = '\r'

/-! Quoted text. An escape of four hexadecimal digits needs four more bytes of
text, or the text has ended too early. -/

def hexFour (first second third fourth : Char) : Option Nat := do
  let a ← hexValue first
  let b ← hexValue second
  let c ← hexValue third
  let d ← hexValue fourth
  return ((a * 16 + b) * 16 + c) * 16 + d

def shortEscapeFault (rest : List Char) : Fault :=
  if 4 ≤ (String.ofList rest).utf8ByteSize then .malformed else .truncated

def escapes : List (Char × Char) :=
  [('"', '"'), ('\\', '\\'), ('/', '/'), ('b', '\x08'), ('f', '\x0c'), ('n', '\n'),
    ('r', '\r'), ('t', '\t')]

/-! A piece of quoted text is a character or a 16-bit unit. Scanning ends behind
the closing quote, or with a fault. -/

inductive Piece where
  | character (value : Char)
  | unit (code : Nat)
  deriving DecidableEq, Repr

structure ScannedText where
  pieces : List Piece
  ending : Except Fault (List Char)

def ScannedText.fail (fault : Fault) : ScannedText where
  pieces := []
  ending := .error fault

def ScannedText.after (piece : Piece) (scanned : ScannedText) : ScannedText where
  pieces := piece :: scanned.pieces
  ending := scanned.ending

def scanText : List Char → ScannedText
  | [] => .fail .truncated
  | head :: rest =>
      if head = '"' then ⟨[], .ok rest⟩
      else if head = '\\' then
        match rest with
        | [] => .fail .truncated
        | mark :: rest =>
            if mark = 'u' then
              match rest with
              | first :: second :: third :: fourth :: rest =>
                  match hexFour first second third fourth with
                  | some code => (scanText rest).after (.unit code)
                  | none => .fail .malformed
              | short => .fail (shortEscapeFault short)
            else
              match escapes.lookup mark with
              | some character => (scanText rest).after (.character character)
              | none => .fail .malformed
      else if head.toNat < 0x20 then .fail .malformed
      else (scanText rest).after (.character head)

/-! The characters of the pieces. A high unit and a low unit after it denote one
character; a unit of either kind without the other denotes none. The fault that
ended the scan is met only after the last piece. -/

def isHigh (code : Nat) : Bool :=
  0xD800 ≤ code && code ≤ 0xDBFF

def isLow (code : Nat) : Bool :=
  0xDC00 ≤ code && code ≤ 0xDFFF

def pairCharacter (high low : Nat) : Char :=
  Char.ofNat (0x10000 + (high - 0xD800) * 0x400 + (low - 0xDC00))

def readPieces (ending : Option Fault) : List Piece → Except Fault (List Char)
  | [] =>
      match ending with
      | none => .ok []
      | some fault => .error fault
  | .character value :: rest => (readPieces ending rest).map (value :: ·)
  | .unit code :: rest =>
      if isLow code then .error .malformed
      else if isHigh code then
        match rest with
        | [] => .error (ending.getD .malformed)
        | .unit low :: rest =>
            if isLow low then (readPieces ending rest).map (pairCharacter code low :: ·)
            else .error .malformed
        | .character _ :: _ => .error .malformed
      else (readPieces ending rest).map (Char.ofNat code :: ·)

def ScannedText.fault? (scanned : ScannedText) : Option Fault :=
  match scanned.ending with
  | .ok _ => none
  | .error fault => some fault

def ScannedText.content (scanned : ScannedText) : Except Fault (List Char) :=
  readPieces scanned.fault? scanned.pieces

example : (scanText "a\\u00e9\\ud83c\\udf0d\"".toList).content.toOption =
    some "aé🌍".toList := by decide +kernel
example : (scanText "\\ud800x\"".toList).content.toOption = none := by decide +kernel
example : (scanText "\\ud800x\":".toList).ending.toOption = some [':'] := by
  decide +kernel

theorem length_scanText (text rest : List Char) (scanned : (scanText text).ending = .ok rest) :
    rest.length < text.length := by
  fun_induction scanText text generalizing rest with
  | case1 => cases scanned
  | case2 => cases scanned; simp
  | case3 => cases scanned
  | case4 first second third fourth tail code read head induction =>
      have shorter := induction rest scanned
      simp only [List.length_cons]
      omega
  | case5 => cases scanned
  | case6 => cases scanned
  | case7 =>
      rename_i induction
      have shorter := induction rest scanned
      simp only [List.length_cons]
      omega
  | case8 => cases scanned
  | case9 => cases scanned
  | case10 =>
      rename_i induction
      have shorter := induction rest scanned
      simp only [List.length_cons]
      omega

/-- Numbers. -/
structure Numeral where
  negative : Bool
  whole : List Char
  fraction : List Char
  exponent : Option (Bool × List Char)
  deriving DecidableEq, Repr

namespace Numeral

def missingDigit : List Char → Fault
  | [] => .truncated
  | _ => .malformed

def scanWhole (text : List Char) : Except Fault (List Char × List Char) :=
  let spanned := spanDigits text
  match spanned.1 with
  | [] => .error (missingDigit spanned.2)
  | '0' :: _ :: _ => .error .malformed
  | _ => .ok spanned

def scanFraction : List Char → Except Fault (List Char × List Char)
  | '.' :: text =>
      let spanned := spanDigits text
      if spanned.1.isEmpty then .error (missingDigit spanned.2) else .ok spanned
  | text => .ok ([], text)

def scanExponent : List Char → Except Fault (Option (Bool × List Char) × List Char)
  | [] => .ok (none, [])
  | mark :: text =>
      if mark = 'e' ∨ mark = 'E' then
        let signed := Decimal.Literal.takeSign text
        let spanned := spanDigits signed.2
        if spanned.1.isEmpty then .error (missingDigit spanned.2)
        else .ok (some (signed.1, spanned.1), spanned.2)
      else .ok (none, mark :: text)

def scan (text : List Char) : Except Fault (Numeral × List Char) := do
  let signed :=
    match text with
    | '-' :: rest => (true, rest)
    | _ => (false, text)
  let whole ← scanWhole signed.2
  let fraction ← scanFraction whole.2
  let exponent ← scanExponent fraction.2
  return (⟨signed.1, whole.1, fraction.1, exponent.1⟩, exponent.2)

/-- The leading digits that a 64-bit word holds, and how many digits are left
over. -/
def absorb : Nat → List Char → Nat × Nat
  | significand, [] => (significand, 0)
  | significand, digit :: others =>
      let longer := 10 * significand + digitValue digit
      if longer ≤ Decimal.word64Limit then absorb longer others
      else (significand, others.length + 1)

/-! A significand is scaled by one multiplication or division with a power of
ten; a power below the range of doubles is divided out in steps. An infinite
product is out of range. -/

def powerOfTen (exponent : Nat) : Float :=
  Decimal.nearestFloat false (Nat.pow 10 exponent) 1

def scaleDown : Nat → Float → Nat → Float
  | 0, value, _ => value
  | fuel + 1, value, exponent =>
      if exponent ≤ 308 then value / powerOfTen exponent
      else if value == 0.0 then value
      else scaleDown fuel (value / powerOfTen 308) (exponent - 308)

def scale (significand : Nat) (exponent : Int) : Except Fault Float :=
  let value := significand.toUInt64.toFloat
  if exponent < 0 then .ok (scaleDown exponent.natAbs value exponent.natAbs)
  else if exponent.natAbs ≤ 308 then
    let product := value * powerOfTen exponent.natAbs
    if Decimal.isFinite product then .ok product else .error .malformed
  else if significand = 0 then .ok value
  else .error .malformed

/-! Exponents are counted in 32-bit words; one that does not fit decides the
value by its sign alone. -/

def exponentLimit : Nat :=
  Nat.pow 2 31 - 1

def real (numeral : Numeral) (significand : Nat) (exponent : Int) : Except Fault Float :=
  let signed := fun value : Float => if numeral.negative then -value else value
  match numeral.exponent with
  | none => (scale significand exponent).map signed
  | some (negative, digits) =>
      let size := digitsValue digits
      if exponentLimit < size then
        if significand ≠ 0 ∧ !negative then .error .malformed else .ok (signed 0.0)
      else
        (scale significand (if negative then exponent - size else exponent + size)).map signed

def value (numeral : Numeral) : Except Fault Number :=
  let (whole, extra) := absorb 0 numeral.whole
  if numeral.fraction.isEmpty && numeral.exponent.isNone && extra = 0 then
    if !numeral.negative then .ok (.whole whole)
    else if 0 < whole ∧ whole ≤ Nat.pow 2 63 then .ok (.whole (-(whole : Int)))
    else .ok (.real (-whole.toUInt64.toFloat))
  else
    let (significand, unread) := absorb whole numeral.fraction
    let read := numeral.fraction.length - unread
    (numeral.real significand ((extra : Int) - read)).map .real

end Numeral

/-- A numeral takes at least one character. -/
theorem length_spanDigits (text : List Char) :
    (spanDigits text).1.length + (spanDigits text).2.length = text.length := by
  unfold spanDigits
  rw [← List.length_append, List.takeWhile_append_dropWhile]

namespace Numeral

theorem length_scanWhole (text digits rest : List Char)
    (scanned : scanWhole text = .ok (digits, rest)) : rest.length < text.length := by
  have split := length_spanDigits text
  unfold scanWhole at scanned
  simp only [] at scanned
  split at scanned
  · cases scanned
  · cases scanned
  · rename_i filled _
    have same : spanDigits text = (digits, rest) := by cases scanned; rfl
    rw [same] at split filled
    cases digits with
    | nil => exact absurd rfl filled
    | cons head tail =>
        simp only [List.length_cons] at split
        omega

theorem length_scanFraction (text digits rest : List Char)
    (scanned : scanFraction text = .ok (digits, rest)) : rest.length ≤ text.length := by
  unfold scanFraction at scanned
  split at scanned
  · rename_i tail
    have split := length_spanDigits tail
    simp only [] at scanned
    split at scanned
    · cases scanned
    · have same : spanDigits tail = (digits, rest) := by cases scanned; rfl
      rw [same] at split
      simp only [List.length_cons] at split ⊢
      omega
  · cases scanned
    exact Nat.le_refl _

theorem length_takeSign (text : List Char) :
    (Decimal.Literal.takeSign text).2.length ≤ text.length := by
  unfold Decimal.Literal.takeSign
  split <;> simp

theorem length_scanExponent (text rest : List Char) (exponent : Option (Bool × List Char))
    (scanned : scanExponent text = .ok (exponent, rest)) : rest.length ≤ text.length := by
  unfold scanExponent at scanned
  split at scanned
  · cases scanned
    exact Nat.le_refl _
  · rename_i mark tail
    have signed := length_takeSign tail
    have split := length_spanDigits (Decimal.Literal.takeSign tail).2
    split at scanned
    · simp only [] at scanned
      split at scanned
      · cases scanned
      · cases scanned
        simp only [List.length_cons]
        omega
    · cases scanned
      exact Nat.le_refl _

theorem length_scan (text rest : List Char) (numeral : Numeral)
    (scanned : scan text = .ok (numeral, rest)) : rest.length < text.length := by
  unfold scan at scanned
  simp only [] at scanned
  generalize signed : (match text with
    | '-' :: rest => (true, rest)
    | _ => (false, text)) = sign at scanned
  have short : sign.2.length ≤ text.length := by
    rw [← signed]
    split <;> simp
  cases whole : scanWhole sign.2 with
  | error fault => rw [whole] at scanned; cases scanned
  | ok read =>
      rw [whole] at scanned
      have first := length_scanWhole _ _ _ whole
      cases fraction : scanFraction read.2 with
      | error fault =>
          simp only [bind, Except.bind, fraction] at scanned
          cases scanned
      | ok read =>
          have second := length_scanFraction _ _ _ fraction
          cases exponent : scanExponent read.2 with
          | error fault =>
              simp only [bind, Except.bind, fraction, exponent] at scanned
              cases scanned
          | ok read =>
              have third := length_scanExponent _ _ _ exponent
              simp only [bind, Except.bind, fraction, exponent, pure, Except.pure] at scanned
              cases scanned
              omega

end Numeral

/-! The tokens of a text, up to the first that cannot be skipped. Three words
are tokens too; a word that breaks off is truncated at the end of the text and
malformed elsewhere. -/

def wordFault : List Char → List Char → Fault
  | [], _ => .malformed
  | _ :: _, [] => .truncated
  | first :: others, head :: tail =>
      if first = head then wordFault others tail else .malformed

set_option linter.unusedVariables false in
def tokens (text : List Char) : List Token :=
  match text with
  | [] => []
  | head :: tail =>
      if isSpace head then tokens tail
      else if head = '{' then .openObject :: tokens tail
      else if head = '}' then .closeObject :: tokens tail
      else if head = '[' then .openArray :: tokens tail
      else if head = ']' then .closeArray :: tokens tail
      else if head = ':' then .colon :: tokens tail
      else if head = ',' then .comma :: tokens tail
      else if head = '"' then
        let scanned := scanText tail
        match ended : scanned.ending with
        | .ok rest => .text scanned.content :: tokens rest
        | .error fault => [.text scanned.content, .broken fault]
      else if head = '-' ∨ isDigit head then
        match read : Numeral.scan (head :: tail) with
        | .ok (numeral, rest) => .number numeral.value :: tokens rest
        | .error fault => [.number (.error fault), .broken .malformed]
      else if head = 'n' then
        match found : afterStart "ull".toList tail with
        | some rest => .null :: tokens rest
        | none => [.word (wordFault "ull".toList tail), .broken .malformed]
      else if head = 't' then
        match found : afterStart "rue".toList tail with
        | some rest => .bool true :: tokens rest
        | none => [.word (wordFault "rue".toList tail), .broken .malformed]
      else if head = 'f' then
        match found : afterStart "alse".toList tail with
        | some rest => .bool false :: tokens rest
        | none => [.word (wordFault "alse".toList tail), .broken .malformed]
      else [.stray]
termination_by text.length
decreasing_by
  all_goals simp only [List.length_cons]
  all_goals first
    | omega
    | (have shorter := length_scanText tail _ ended; omega)
    | (have shorter := Numeral.length_scan (head :: tail) _ _ read
       simp only [List.length_cons] at shorter
       omega)
    | (have shorter := length_of_afterStart found; omega)

end ExportWatch.Json
