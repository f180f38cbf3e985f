import ExportWatch.Proofs.Text.Blank
import ExportWatch.Proofs.Time.Span
import ExportWatch.Run.Basic

/-! Elapsed times as texts. Whole seconds below `2 ^ 53` are read as they are written, with days in
front or without. Days of which there are too many are refused. -/

namespace ExportWatch.Elapsed

open Decimal Literal Text

/-! The texts that write a whole number of seconds. -/

/-- A number with as many digits as one likes. -/
structure IsCount (digits : List Char) : Prop where
  filled : digits ≠ []
  all : ∀ digit ∈ digits, isDigit digit = true

/-- Behind a point there are zeros only. -/
inductive WritesSeconds : Nat → List Char → Prop where
  | whole {digits : List Char} (count : IsCount digits) : WritesSeconds (digitsValue digits) digits
  | pointed {digits : List Char} (count : IsCount digits) (zeros : Nat) :
      WritesSeconds (digitsValue digits) (digits ++ '.' :: List.replicate zeros '0')

inductive WritesClock : Nat → List Char → Prop where
  | fields {hours minutes rest : List Char} {seconds : Nat} (hoursCount : IsCount hours)
      (minutesCount : IsCount minutes) (writes : WritesSeconds seconds rest) :
      WritesClock (digitsValue hours * 3600 + digitsValue minutes * 60 + seconds)
        (hours ++ ':' :: (minutes ++ ':' :: rest))

/-- A number of days and, behind a blank, any word for them. -/
inductive WritesDays : Nat → List Char → Prop where
  | counted {digits unit : List Char} (count : IsCount digits)
      (apart : ∀ head ∈ unit.head?, isBlank head = true) (plain : ',' ∉ unit) :
      WritesDays (digitsValue digits) (digits ++ unit)

inductive Writes : Nat → List Char → Prop where
  | clock {seconds : Nat} {text : List Char} (writes : WritesClock seconds text) :
      Writes seconds text
  | days {days seconds : Nat} {before clock : List Char} (count : WritesDays days before)
      (writes : WritesClock seconds clock) :
      Writes (days * secondsPerDay + seconds) (before ++ ([',', ' '] ++ clock))

/-! None of these texts starts or ends with a blank, and a comma stands behind the days only. -/

theorem IsCount.solid {digits : List Char} (count : IsCount digits) {character : Char}
    (member : character ∈ digits) : isBlank character = false ∧ character ≠ ',' :=
  solid_of_isDigit (count.all character member)

theorem WritesSeconds.mem {seconds : Nat} {text : List Char} (writes : WritesSeconds seconds text)
    {character : Char} (member : character ∈ text) :
    isDigit character = true ∨ character = '.' := by
  cases writes with
  | whole count => exact .inl (count.all character member)
  | pointed count zeros =>
      rcases List.mem_append.mp member with before | after
      · exact .inl (count.all character before)
      · rcases List.mem_cons.mp after with rfl | zero
        · exact .inr rfl
        · exact .inl (isDigit_of_mem_zeros zero)

theorem WritesClock.solid {seconds : Nat} {text : List Char} (writes : WritesClock seconds text)
    {character : Char} (member : character ∈ text) :
    isBlank character = false ∧ character ≠ ',' := by
  cases writes with
  | fields hoursCount minutesCount writes =>
      simp only [List.mem_append, List.mem_cons] at member
      rcases member with hours | rfl | minutes | rfl | rest
      · exact hoursCount.solid hours
      · decide
      · exact minutesCount.solid minutes
      · decide
      · rcases writes.mem rest with digit | rfl
        · exact solid_of_isDigit digit
        · decide

theorem WritesClock.filled {seconds : Nat} {text : List Char} (writes : WritesClock seconds text) :
    text ≠ [] := by
  cases writes with
  | fields _ _ _ => simp

theorem WritesDays.not_mem {days : Nat} {before : List Char} (count : WritesDays days before) :
    ',' ∉ before := by
  cases count with
  | counted count apart plain =>
      rw [List.mem_append, not_or]
      exact ⟨fun member => (count.solid member).2 rfl, plain⟩

theorem WritesDays.filled {days : Nat} {before : List Char} (count : WritesDays days before) :
    before ≠ [] := by
  cases count with
  | counted count _ _ => exact List.append_ne_nil_of_left_ne_nil count.filled _

theorem WritesDays.starts {days : Nat} {before : List Char} (count : WritesDays days before) :
    ∀ head ∈ before.head?, isBlank head = false := by
  cases count with
  | counted count _ _ =>
      intro head first
      rw [List.head?_append_of_ne_nil _ count.filled] at first
      exact (count.solid (List.mem_of_mem_head? first)).1

theorem Writes.tight {seconds : Nat} {text : List Char} (writes : Writes seconds text) :
    Tight text := by
  cases writes with
  | clock writes => exact .of_forall fun _ member => (writes.solid member).1
  | @days _ _ before clock count writes =>
      constructor
      · intro head first
        rw [List.head?_append_of_ne_nil _ count.filled] at first
        exact count.starts head first
      · intro last final
        rw [← List.append_assoc, List.getLast?_append_of_ne_nil _ writes.filled] at final
        exact (writes.solid (List.mem_of_getLast? final)).1

/-! Reading the numbers. -/

theorem readDigits_count {digits : List Char} (count : IsCount digits) :
    readDigits digits = .ok (digitsValue digits) := by
  rw [readDigits, if_pos]
  rw [Bool.and_eq_true, Bool.not_eq_true', List.isEmpty_eq_false_iff, List.all_eq_true]
  exact ⟨count.filled, count.all⟩

theorem readNatural_count {digits : List Char} (count : IsCount digits) (limit : Nat) :
    readNatural limit digits =
      if digitsValue digits ≤ limit then .ok (digitsValue digits) else .error .tooLarge := by
  have read := readDigits_count count
  have plain := unsigned_of_digits count.all
  cases digits with
  | nil => exact absurd rfl count.filled
  | cons head tail =>
      simp [readNatural, (plain head rfl).1, read, Except.bind]

theorem floatAt?_mantissa {whole fraction text : List Char} {number : Nat}
    (isMantissa : IsMantissa whole fraction text) (small : number < 2 ^ 53)
    (same : digitsValue (whole ++ fraction) = number * 10 ^ fraction.length) :
    floatAt? text = some (wholeFloat number) := by
  have isLiteral : IsLiteral (.decimal false (digitsValue (whole ++ fraction))
      (0 - (fraction.length : Int))) ([] ++ (text ++ [])) :=
    .signed .none (.inl (.parts isMantissa .none))
  have value :
      (digitsValue (whole ++ fraction) : ℚ) * 10 ^ (0 - (fraction.length : Int)) = number := by
    rw [same, zero_sub, zpow_neg, zpow_natCast, Nat.cast_mul, Nat.cast_pow, Nat.cast_ofNat,
      mul_inv_cancel_right₀ (by positivity)]
  rw [List.nil_append, List.append_nil] at isLiteral
  rw [floatAt?, readFloat, read_eq_ok_iff.mpr isLiteral, Except.map, Literal.toFloat,
    decimalFloat_of_whole small value]
  rfl

theorem floatAt?_seconds {seconds : Nat} {text : List Char} (writes : WritesSeconds seconds text)
    (small : seconds < 2 ^ 53) : floatAt? text = some (wholeFloat seconds) := by
  cases writes with
  | whole count =>
      apply floatAt?_mantissa (.whole count.all count.filled) small
      rw [List.append_nil, List.length_nil, Nat.pow_zero, Nat.mul_one]
  | pointed count zeros =>
      apply floatAt?_mantissa
        (.pointed count.all (fun _ => isDigit_of_mem_zeros) (.inl count.filled)) small
      rw [digitsValue_append_zeros, List.length_replicate]

theorem wholeFloat_clock {hours minutes seconds : Nat}
    (small : hours * 3600 + minutes * 60 + seconds < 2 ^ 53) :
    wholeFloat hours * 3600.0 + wholeFloat minutes * 60.0 + wholeFloat seconds =
      wholeFloat (hours * 3600 + minutes * 60 + seconds) := by
  have below {part : Nat} (le : part ≤ hours * 3600 + minutes * 60 + seconds) : part < 2 ^ 53 :=
    le.trans_lt small
  have hour : (3600.0 : Float) = wholeFloat 3600 := by decide
  have minute : (60.0 : Float) = wholeFloat 60 := by decide
  have inHours : wholeFloat hours * wholeFloat 3600 = wholeFloat (hours * 3600) :=
    wholeFloat_mul (below (by omega)) (below (by omega)) (by decide)
  have inMinutes : wholeFloat minutes * wholeFloat 60 = wholeFloat (minutes * 60) :=
    wholeFloat_mul (below (by omega)) (below (by omega)) (by decide)
  rw [hour, minute, inHours, inMinutes, wholeFloat_add (below (by omega)), wholeFloat_add small]

theorem clockSeconds?_clock {seconds : Nat} {text : List Char} (writes : WritesClock seconds text)
    (small : seconds < 2 ^ 53) : clockSeconds? text = some (wholeFloat seconds) := by
  cases writes with
  | @fields hours minutes rest seconds hoursCount minutesCount writes =>
      have hoursRead := floatAt?_seconds (.whole hoursCount) (by omega)
      have minutesRead := floatAt?_seconds (.whole minutesCount) (by omega)
      have restRead := floatAt?_seconds writes (by omega)
      have bare : ':' ∉ rest := by
        intro member
        rcases writes.mem member with digit | mark
        · cases digit
        · cases mark
      rw [clockSeconds?, parts_append, parts_append,
        parts_of_not_mem (not_mem_digits rfl hoursCount.all),
        parts_of_not_mem (not_mem_digits rfl minutesCount.all), parts_of_not_mem bare]
      simp only [List.singleton_append, List.map_cons, List.map_nil, hoursRead, minutesRead,
        restRead]
      rw [wholeFloat_clock small]

theorem days?_days {days : Nat} {before : List Char} (count : WritesDays days before) :
    days? before = if days ≤ word64Limit then some days else none := by
  cases count with
  | counted count apart _ =>
      rw [days?, head?_words count.filled (fun _ member => (count.solid member).1) apart,
        Option.bind_some, readNatural_count count]
      split <;> rfl

theorem splitDays_days {days : Nat} {before : List Char} (count : WritesDays days before)
    (clock : List Char) : splitDays (before ++ ([',', ' '] ++ clock)) =
      if days ≤ word64Limit then some (days, clock) else none := by
  rw [splitDays, cut_append _ count.not_mem]
  simp only [days?_days count]
  split <;> rfl

theorem splitDays_clock {seconds : Nat} {text : List Char} (writes : WritesClock seconds text) :
    splitDays text = some (0, text) := by
  rw [splitDays, cut_of_not_mem _ fun member => (writes.solid member).2 rfl]

theorem clockSpan?_of_split {text clock : List Char} {days seconds : Nat}
    (split : splitDays (trim text) = some (days, clock)) (writes : WritesClock seconds clock)
    (small : days * secondsPerDay + seconds < 2 ^ 53) :
    clockSpan? text = some (.ofSeconds (days * secondsPerDay + seconds)) := by
  have counted : days * secondsPerDay ≤ word64Limit := by
    have limit : 2 ^ 53 ≤ word64Limit := by decide
    omega
  have total : wholeFloat seconds + nearestFloat false (days * secondsPerDay) 1 =
      wholeFloat (days * secondsPerDay + seconds) := by
    rw [Nat.add_comm] at small ⊢
    exact wholeFloat_add small
  rw [clockSpan?, split, Option.bind_eq_bind, Option.bind_some]
  simp only []
  rw [clockSeconds?_clock writes (by omega), Option.bind_eq_bind, Option.bind_some, if_pos counted,
    total, Span.ofFloatSeconds?_wholeFloat small]

theorem clockSpan?_writes {seconds : Nat} {text : List Char} (writes : Writes seconds text)
    (small : seconds < 2 ^ 53) : clockSpan? text = some (.ofSeconds seconds) := by
  have trimmed := writes.tight.trim_eq
  cases writes with
  | clock writes =>
      have split := splitDays_clock writes
      rw [← Nat.zero_add seconds, ← Nat.zero_mul secondsPerDay] at small ⊢
      exact clockSpan?_of_split (trimmed.symm ▸ split) writes small
  | @days days seconds before clock count writes =>
      have within : days ≤ word64Limit := by
        have product : days ≤ days * secondsPerDay := Nat.le_mul_of_pos_right days (by decide)
        have limit : 2 ^ 53 ≤ word64Limit := by decide
        omega
      have split := splitDays_days count clock
      rw [if_pos within] at split
      exact clockSpan?_of_split (trimmed.symm ▸ split) writes small

/-- Whether the number of days is too large for a word or only the seconds in them. -/
theorem clockSpan?_of_too_many {text before clock : List Char} {days : Nat}
    (count : WritesDays days before) (many : word64Limit < days * secondsPerDay)
    (shape : trim text = before ++ ([',', ' '] ++ clock)) : clockSpan? text = none := by
  rw [clockSpan?, shape, splitDays_days count]
  by_cases within : days ≤ word64Limit
  · rw [if_pos within, Option.bind_eq_bind, Option.bind_some]
    simp only []
    -- The clock is read first, but no clock makes up for the days.
    cases clockSeconds? clock with
    | none => rfl
    | some onClock =>
        rw [Option.bind_eq_bind, Option.bind_some, if_neg (Nat.not_le.mpr many)]
  · rw [if_neg within]
    rfl

/-! The clock of a span is such a text. -/

theorem isCount_padLeftZero {width : Nat} (filled : 0 < width) (value : Nat) :
    IsCount (padLeftZero width (digitsOf value)) where
  filled := by
    rw [← List.length_pos_iff, length_padLeftZero]
    omega
  all := fun _ member => isDigit_of_mem_padLeftZero (fun _ => isDigit_of_mem_digitsOf) member

theorem writesClock_clock (seconds : Nat) : WritesClock seconds (Span.ofSeconds seconds).clock := by
  have zeros : padLeftZero 3 (digitsOf (seconds * 1000 % 1000)) = List.replicate 3 '0' := by
    rw [Nat.mul_mod_left]
    rfl
  have count (value : Nat) : IsCount (padLeftZero 2 (digitsOf value)) :=
    isCount_padLeftZero (by decide) value
  have writes := WritesClock.fields (count (seconds / 3600)) (count (seconds / 60 % 60))
    (.pointed (count (seconds % 60)) 3)
  have total : seconds / 3600 * 3600 + seconds / 60 % 60 * 60 + seconds % 60 = seconds := by omega
  rw [digitsValue_padLeftZero, digitsValue_padLeftZero, digitsValue_padLeftZero, total] at writes
  rw [Span.clock_eq_text, Span.milliseconds_ofSeconds, Span.Fields.text, Span.Fields.ofMilliseconds,
    zeros, Nat.mul_div_cancel _ (by decide : 0 < 1000)]
  exact writes

/-- A clock shows every whole millisecond. Whole seconds are read back from it, as from every text
that writes them with days or without. Too many days are not read. -/
theorem shown_and_read_without_loss :
    (∀ span : Span, ∃ fields : Span.Fields, fields.Valid ∧ span.clock = fields.text ∧
      fields.value = span.milliseconds) ∧
    (∀ first second : Span, first.clock = second.clock ↔ first.milliseconds = second.milliseconds) ∧
    (∀ seconds < 2 ^ 53, (text (String.ofList (Span.ofSeconds seconds).clock)).span? =
      some (.ofSeconds seconds)) ∧
    (∀ seconds < 2 ^ 53, ∀ content : String, Writes seconds content.toList →
      (text content).span? = some (.ofSeconds seconds)) ∧
    (∀ content : String, ∀ days before clock, WritesDays days before →
      word64Limit < days * secondsPerDay →
      trim content.toList = before ++ ([',', ' '] ++ clock) → (text content).span? = none) := by
  refine ⟨?_, ?_, ?_, ?_, ?_⟩
  · intro span
    exact ⟨_, Span.Fields.valid_ofMilliseconds _, span.clock_eq_text,
      Span.Fields.value_ofMilliseconds _⟩
  · intro first second
    exact Span.clock_eq_iff
  · intro seconds small
    rw [span?, String.toList_ofList]
    exact clockSpan?_writes (.clock (writesClock_clock seconds)) small
  · intro seconds small content writes
    exact clockSpan?_writes writes small
  · intro content days before clock count many shape
    exact clockSpan?_of_too_many count many shape

/-- A day and two hours are read, and more days than a word counts the seconds of are not. -/
theorem shown_and_read_without_loss_of_days :
    (text "1 day, 2:00:00").span? = some (.ofSeconds 93600) ∧
      (text "18446744073709551615 days, 0:00:01").span? = none := by
  rcases shown_and_read_without_loss with ⟨-, -, -, read, refused⟩
  have one : WritesDays 1 "1 day".toList :=
    .counted ⟨List.cons_ne_nil '1' [], by decide⟩ (by decide) (by decide)
  have hours : WritesClock 7200 "2:00:00".toList :=
    .fields ⟨List.cons_ne_nil '2' [], by decide⟩ ⟨List.cons_ne_nil '0' ['0'], by decide⟩
      (.whole ⟨List.cons_ne_nil '0' ['0'], by decide⟩)
  have many : WritesDays 18446744073709551615 "18446744073709551615 days".toList := by
    have count : IsCount "18446744073709551615".toList := ⟨by decide, by decide⟩
    exact .counted count (by decide) (by decide)
  exact ⟨read _ (by decide) _ (.days one hours),
    refused _ _ _ "0:00:01".toList many (by decide) (by decide)⟩

end ExportWatch.Elapsed
