import ExportWatch.Decimal.Literal
import ExportWatch.Proofs.Outcome
import ExportWatch.Proofs.Text.Digit

/-! Which texts are literals, and which number each of them writes. -/

namespace ExportWatch.Decimal

open Text

namespace Literal

inductive IsSign : Bool → List Char → Prop where
  | none : IsSign false []
  | plus : IsSign false ['+']
  | minus : IsSign true ['-']

/-- The digits before and after the point. One of the two may be missing, and without a point there
are none after it. -/
inductive IsMantissa : List Char → List Char → List Char → Prop where
  | whole {whole : List Char} (digits : ∀ digit ∈ whole, isDigit digit = true)
      (filled : whole ≠ []) : IsMantissa whole [] whole
  | pointed {whole fraction : List Char} (digits : ∀ digit ∈ whole, isDigit digit = true)
      (fractionDigits : ∀ digit ∈ fraction, isDigit digit = true)
      (filled : whole ≠ [] ∨ fraction ≠ []) :
      IsMantissa whole fraction (whole ++ '.' :: fraction)

inductive IsExponent : Int → List Char → Prop where
  | none : IsExponent 0 []
  | marked {mark : Char} {negative : Bool} {sign digits : List Char}
      (isMark : mark = 'e' ∨ mark = 'E') (signed : IsSign negative sign)
      (all : ∀ digit ∈ digits, isDigit digit = true) (filled : digits ≠ []) :
      IsExponent (if negative then -(digitsValue digits : Int) else digitsValue digits)
        (mark :: (sign ++ digits))

/-- Names in letters of either case. -/
inductive IsName (negative : Bool) : Literal → List Char → Prop where
  | notANumber {name : List Char} (named : name.map toSmall = "nan".toList) :
      IsName negative .notANumber name
  | infinite {name : List Char}
      (named : name.map toSmall = "inf".toList ∨ name.map toSmall = "infinity".toList) :
      IsName negative (.infinite negative) name

inductive IsDecimal (negative : Bool) : Literal → List Char → Prop where
  | parts {whole fraction mantissa rest : List Char} {exponent : Int}
      (isMantissa : IsMantissa whole fraction mantissa) (isExponent : IsExponent exponent rest) :
      IsDecimal negative
        (.decimal negative (digitsValue (whole ++ fraction)) (exponent - fraction.length))
        (mantissa ++ rest)

inductive IsLiteral : Literal → List Char → Prop where
  | signed {negative : Bool} {sign unsigned : List Char} {literal : Literal}
      (isSign : IsSign negative sign)
      (written : IsDecimal negative literal unsigned ∨ IsName negative literal unsigned) :
      IsLiteral literal (sign ++ unsigned)

/-- A mantissa holds nothing but digits and a point. -/
theorem IsMantissa.mem {whole fraction text : List Char} (isMantissa : IsMantissa whole fraction text)
    {character : Char} (member : character ∈ text) : isDigit character = true ∨ character = '.' := by
  cases isMantissa with
  | whole digits _ => exact .inl (digits character member)
  | pointed digits fractionDigits _ =>
      rcases List.mem_append.mp member with before | after
      · exact .inl (digits character before)
      · rcases List.mem_cons.mp after with rfl | after
        · exact .inr rfl
        · exact .inl (fractionDigits character after)

/-! Signs. -/

/-- No sign is at the front. -/
def Unsigned (text : List Char) : Prop :=
  ∀ head ∈ text.head?, head ≠ '+' ∧ head ≠ '-'

theorem isSign_takeSign (text : List Char) :
    ∃ sign, IsSign (takeSign text).1 sign ∧ text = sign ++ (takeSign text).2 := by
  unfold takeSign
  split
  · exact ⟨_, .minus, rfl⟩
  · exact ⟨_, .plus, rfl⟩
  · exact ⟨_, .none, rfl⟩

theorem takeSign_signed {negative : Bool} {sign text : List Char} (signed : IsSign negative sign)
    (unsigned : Unsigned text) : takeSign (sign ++ text) = (negative, text) := by
  cases signed with
  | plus => rfl
  | minus => rfl
  | none =>
      rw [List.nil_append]
      unfold takeSign
      split
      · exact absurd rfl (unsigned '-' rfl).2
      · exact absurd rfl (unsigned '+' rfl).1
      · rfl

theorem unsigned_of_digits {digits : List Char} (all : ∀ digit ∈ digits, isDigit digit = true) :
    Unsigned digits := by
  intro head first
  have digit := all head (List.mem_of_mem_head? first)
  constructor <;> rintro rfl <;> cases digit

/-! Each part of a literal is what its reader accepts. -/

theorem exponent?_eq_some_iff {text : List Char} {exponent : Int} :
    exponent? text = some exponent ↔ IsExponent exponent text := by
  constructor
  · intro read
    cases text with
    | nil =>
        cases read
        exact .none
    | cons mark tail =>
        rcases isSign_takeSign tail with ⟨sign, signed, split⟩
        simp only [exponent?] at read
        split at read
        · next isMark =>
            split at read
            · next complete =>
                cases read
                rw [Bool.and_eq_true, Bool.not_eq_true', List.isEmpty_eq_false_iff,
                  List.all_eq_true] at complete
                have isExponent := IsExponent.marked isMark signed complete.2 complete.1
                rwa [← split] at isExponent
            · cases read
        · cases read
  · intro isExponent
    cases isExponent with
    | none => rfl
    | marked isMark signed all filled =>
        have complete : ∀ digits : List Char, (∀ digit ∈ digits, isDigit digit = true) →
            digits ≠ [] → (!digits.isEmpty && digits.all isDigit) = true := by
          intro digits all filled
          rw [Bool.and_eq_true, Bool.not_eq_true', List.isEmpty_eq_false_iff, List.all_eq_true]
          exact ⟨filled, all⟩
        simp only [exponent?]
        rw [if_pos isMark, takeSign_signed signed (unsigned_of_digits all),
          if_pos (complete _ all filled)]

theorem IsExponent.endsDigits {exponent : Int} {text : List Char}
    (isExponent : IsExponent exponent text) : EndsDigits text := by
  intro head first
  cases isExponent with
  | none => cases first
  | marked isMark _ _ _ =>
      cases first
      rcases isMark with rfl | rfl <;> rfl

theorem IsExponent.takeFraction_eq {exponent : Int} {text : List Char}
    (isExponent : IsExponent exponent text) : takeFraction text = ([], text) := by
  unfold takeFraction
  split
  · cases isExponent with
    | marked isMark _ _ _ => rcases isMark with mark | mark <;> cases mark
  · rfl

theorem spanDigits_digits {digits rest : List Char}
    (all : ∀ digit ∈ digits, isDigit digit = true) (ends : EndsDigits rest) :
    spanDigits (digits ++ rest) = (digits, rest) := by
  rw [spanDigits_append digits fun _ => ends, spanDigits_of_all all]
  rfl

theorem spanDigits_spec (text : List Char) :
    (∀ digit ∈ (spanDigits text).1, isDigit digit = true) ∧
      text = (spanDigits text).1 ++ (spanDigits text).2 :=
  ⟨fun _ member => List.mem_takeWhile_imp member, List.takeWhile_append_dropWhile.symm⟩

/-- What stands before the exponent. -/
theorem isMantissa_of_taken {text : List Char}
    (filled : (spanDigits text).1 ≠ [] ∨ (takeFraction (spanDigits text).2).1 ≠ []) :
    ∃ mantissa,
      IsMantissa (spanDigits text).1 (takeFraction (spanDigits text).2).1 mantissa ∧
        text = mantissa ++ (takeFraction (spanDigits text).2).2 := by
  rcases spanDigits_spec text with ⟨digits, whole⟩
  generalize spanDigits text = span at digits whole filled ⊢
  rcases span with ⟨before, after⟩
  simp only [] at digits whole filled ⊢
  subst whole
  unfold takeFraction at filled ⊢
  split
  · next after =>
      rcases spanDigits_spec after with ⟨fractionDigits, fraction⟩
      refine ⟨_, .pointed digits fractionDigits filled, ?_⟩
      rw [List.append_assoc, List.cons_append, ← fraction]
  · next other =>
      refine ⟨before, .whole digits ?_, rfl⟩
      rcases filled with filled | filled
      · exact filled
      · split at filled
        · next after => exact absurd rfl (other after)
        · exact absurd rfl filled

theorem taken_of_isMantissa {whole fraction mantissa rest : List Char} {exponent : Int}
    (isMantissa : IsMantissa whole fraction mantissa) (isExponent : IsExponent exponent rest) :
    ∃ afterWhole, spanDigits (mantissa ++ rest) = (whole, afterWhole) ∧
      takeFraction afterWhole = (fraction, rest) ∧ (whole ≠ [] ∨ fraction ≠ []) := by
  cases isMantissa with
  | whole digits filled =>
      exact ⟨rest, spanDigits_digits digits isExponent.endsDigits, isExponent.takeFraction_eq,
        .inl filled⟩
  | pointed digits fractionDigits filled =>
      refine ⟨'.' :: (fraction ++ rest), ?_, ?_, filled⟩
      · rw [List.append_assoc, List.cons_append]
        refine spanDigits_digits digits ?_
        rintro head ⟨⟩
        rfl
      · exact spanDigits_digits fractionDigits isExponent.endsDigits

theorem decimal?_eq_some_iff {negative : Bool} {text : List Char} {literal : Literal} :
    decimal? negative text = some literal ↔ IsDecimal negative literal text := by
  constructor
  · intro read
    simp only [decimal?] at read
    split at read
    · cases read
    · next some =>
        rw [Bool.and_eq_true, List.isEmpty_iff, List.isEmpty_iff, not_and_or] at some
        rcases Option.map_eq_some_iff.mp read with ⟨exponent, exponentRead, rfl⟩
        rcases isMantissa_of_taken some with ⟨mantissa, isMantissa, split⟩
        have isDecimal : IsDecimal negative _ _ :=
          .parts isMantissa (exponent?_eq_some_iff.mp exponentRead)
        rwa [← split] at isDecimal
  · intro isDecimal
    cases isDecimal with
    | parts isMantissa isExponent =>
        rcases taken_of_isMantissa isMantissa isExponent with
          ⟨afterWhole, wholeTaken, fractionTaken, filled⟩
        simp only [decimal?, wholeTaken, fractionTaken]
        rw [if_neg, exponent?_eq_some_iff.mpr isExponent]
        · rfl
        · rwa [Bool.and_eq_true, List.isEmpty_iff, List.isEmpty_iff, not_and_or]

theorem named?_eq_some_iff {negative : Bool} {text : List Char} {literal : Literal} :
    named? negative text = some literal ↔ IsName negative literal text := by
  constructor
  · intro read
    simp only [named?] at read
    split at read
    · next named =>
        cases read
        exact .notANumber named
    · split at read
      · next named =>
          cases read
          exact .infinite named
      · cases read
  · intro isName
    cases isName with
    | notANumber named =>
        simp only [named?]
        rw [if_pos named]
    | infinite named =>
        have other : text.map toSmall ≠ "nan".toList := by
          rcases named with named | named <;> rw [named] <;> decide
        simp only [named?]
        rw [if_neg other, if_pos named]

/-! What stands behind the sign begins with a digit, a point or a letter. -/

theorem IsDecimal.starts {negative : Bool} {literal : Literal} {text : List Char}
    (isDecimal : IsDecimal negative literal text) :
    ∃ head, text.head? = some head ∧ (isDigit head = true ∨ head = '.') := by
  cases isDecimal with
  | @parts whole _ _ _ _ isMantissa _ =>
      cases isMantissa with
      | whole digits filled =>
          rcases List.exists_cons_of_ne_nil filled with ⟨head, tail, rfl⟩
          exact ⟨head, rfl, .inl (digits head List.mem_cons_self)⟩
      | pointed digits _ _ =>
          cases whole with
          | nil => exact ⟨'.', rfl, .inr rfl⟩
          | cons head tail => exact ⟨head, rfl, .inl (digits head List.mem_cons_self)⟩

theorem IsDecimal.unsigned {negative : Bool} {literal : Literal} {text : List Char}
    (isDecimal : IsDecimal negative literal text) : Unsigned text := by
  intro head first
  rcases isDecimal.starts with ⟨start, starts, digit⟩
  rw [starts] at first
  cases first
  rcases digit with digit | rfl
  · constructor <;> rintro rfl <;> cases digit
  · decide

theorem IsName.starts {negative : Bool} {literal : Literal} {text : List Char}
    (isName : IsName negative literal text) :
    ∃ head, text.head? = some head ∧ (toSmall head = 'n' ∨ toSmall head = 'i') := by
  have first {name : List Char} {letter : Char} {letters : List Char}
      (named : name.map toSmall = letter :: letters) :
      ∃ head, name.head? = some head ∧ toSmall head = letter := by
    cases name with
    | nil => cases named
    | cons head tail => exact ⟨head, rfl, (List.cons.inj named).1⟩
  cases isName with
  | notANumber named =>
      rcases first named with ⟨head, starts, letter⟩
      exact ⟨head, starts, .inl letter⟩
  | infinite named =>
      rcases named with named | named
      · rcases first named with ⟨head, starts, letter⟩
        exact ⟨head, starts, .inr letter⟩
      · rcases first named with ⟨head, starts, letter⟩
        exact ⟨head, starts, .inr letter⟩

theorem IsName.unsigned {negative : Bool} {literal : Literal} {text : List Char}
    (isName : IsName negative literal text) : Unsigned text := by
  intro head first
  rcases isName.starts with ⟨start, starts, letter⟩
  rw [starts] at first
  cases first
  constructor <;> rintro rfl <;> revert letter <;> decide

theorem not_isDecimal_of_isName {negative : Bool} {literal other : Literal} {text : List Char}
    (isName : IsName negative literal text) : ¬ IsDecimal negative other text := by
  intro isDecimal
  rcases isName.starts with ⟨head, starts, letter⟩
  rcases isDecimal.starts with ⟨start, same, digit⟩
  rw [starts] at same
  cases same
  rcases digit with digit | rfl
  · have small : toSmall head = head := by
      have upper : ¬ 'A' ≤ head := fun capital =>
        absurd (capital.trans (isDigit_iff.mp digit).2) (by decide)
      simp [toSmall, upper]
    rw [small] at letter
    rcases letter with rfl | rfl <;> cases digit
  · revert letter
    decide

theorem orElse_eq_some_iff {negative : Bool} {text : List Char} {literal : Literal} :
    ((decimal? negative text).orElse fun _ => named? negative text) = some literal ↔
      IsDecimal negative literal text ∨ IsName negative literal text := by
  rw [← decimal?_eq_some_iff, ← named?_eq_some_iff]
  cases decimal : decimal? negative text with
  | none => simp
  | some found =>
      have unnamed : named? negative text ≠ some literal := fun named =>
        not_isDecimal_of_isName (named?_eq_some_iff.mp named) (decimal?_eq_some_iff.mp decimal)
      simp [unnamed]

/-- A text is read exactly when it is a literal, and then as what it writes. -/
theorem read_eq_ok_iff {text : List Char} {literal : Literal} :
    Literal.read text = .ok literal ↔ IsLiteral literal text := by
  constructor
  · intro read
    rcases isSign_takeSign text with ⟨sign, signed, split⟩
    simp only [Literal.read] at read
    split at read
    · cases read
    · split at read
      · next found =>
          cases read
          rw [split]
          exact .signed signed (orElse_eq_some_iff.mp found)
      · cases read
  · intro isLiteral
    cases isLiteral with
    | @signed negative sign unsigned _ isSign written =>
        have bare : Unsigned unsigned :=
          written.elim IsDecimal.unsigned IsName.unsigned
        have filled : unsigned ≠ [] := by
          rintro rfl
          rcases written with isDecimal | isName
          · rcases isDecimal.starts with ⟨head, starts, -⟩
            cases starts
          · rcases isName.starts with ⟨head, starts, -⟩
            cases starts
        simp only [Literal.read]
        rw [if_neg (by simp [filled]), takeSign_signed isSign bare]
        simp only [orElse_eq_some_iff.mpr written]

theorem read_eq_error_iff {text : List Char} {fault : LiteralFault} :
    Literal.read text = .error fault ↔
      (∀ literal, ¬ IsLiteral literal text) ∧
        fault = if text = [] then .empty else .malformed := by
  simp only [← read_eq_ok_iff]
  cases read : Literal.read text with
  | ok literal => simp
  | error other =>
      have reason : other = if text = [] then .empty else .malformed := by
        simp only [Literal.read, List.isEmpty_iff] at read
        split at read
        · next empty =>
            cases read
            rw [if_pos empty]
        · next filled =>
            split at read
            · cases read
            · cases read
              rw [if_neg filled]
      simp [← reason, eq_comm]

end Literal

end ExportWatch.Decimal
