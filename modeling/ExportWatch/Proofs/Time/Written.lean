import ExportWatch.Proofs.Text.Digit
import ExportWatch.Proofs.Time.Calendar
import ExportWatch.Time.Timestamp

/-! The texts that are timestamps. They are put together from their parts, and what is read are
the values of these. -/

namespace ExportWatch.Timestamp

open Calendar Text

/-- A mark that stands for universal time, or how far the clocks are ahead of it or behind. -/
inductive Zone where
  | universal (mark : Char)
  | offset (sign : Char) (hours minutes : List Char)

/-- The parts of a timestamp, with numbers as digits. There need not be a fraction. -/
structure Written where
  year : List Char
  month : List Char
  day : List Char
  separator : Char
  hour : List Char
  minute : List Char
  second : List Char
  fraction : List Char
  zone : Zone

namespace Zone

def text : Zone → List Char
  | .universal mark => [mark]
  | .offset sign hours minutes => sign :: (hours ++ ':' :: minutes)

/-- In minutes, ahead of universal time. -/
def minutes : Zone → Int
  | .universal _ => 0
  | .offset sign hours minutes =>
      if sign = '+' then digitsValue hours * 60 + digitsValue minutes
      else -(digitsValue hours * 60 + digitsValue minutes : Int)

inductive Valid : Zone → Prop
  | universal {mark : Char} : mark = 'Z' ∨ mark = 'z' → Valid (.universal mark)
  | offset {sign : Char} {hours minutes : List Char} : sign = '+' ∨ sign = '-' →
      IsNumber 2 hours → digitsValue hours ≤ 23 → IsNumber 2 minutes → digitsValue minutes ≤ 59 →
      Valid (.offset sign hours minutes)

theorem valid_universal_iff {mark : Char} :
    Valid (.universal mark) ↔ mark = 'Z' ∨ mark = 'z' := by
  constructor
  · intro valid
    cases valid with
    | universal isMark => exact isMark
  · exact .universal

theorem valid_offset_iff {sign : Char} {hours minutes : List Char} :
    Valid (.offset sign hours minutes) ↔
      (sign = '+' ∨ sign = '-') ∧ (IsNumber 2 hours ∧ digitsValue hours ≤ 23) ∧
        IsNumber 2 minutes ∧ digitsValue minutes ≤ 59 := by
  constructor
  · intro valid
    cases valid with
    | offset isSign isHours hours_le isMinutes minutes_le =>
        exact ⟨isSign, ⟨isHours, hours_le⟩, isMinutes, minutes_le⟩
  · intro parts
    exact .offset parts.1 parts.2.1.1 parts.2.1.2 parts.2.2.1 parts.2.2.2

instance : DecidablePred Valid
  | .universal _ => decidable_of_iff _ valid_universal_iff.symm
  | .offset _ _ _ => decidable_of_iff _ valid_offset_iff.symm

end Zone

def fractionText : List Char → List Char
  | [] => []
  | digits => '.' :: digits

namespace Written

def clockText (written : Written) : List Char :=
  written.hour ++ ':' :: (written.minute ++ ':' :: (written.second ++
    (fractionText written.fraction ++ written.zone.text)))

def text (written : Written) : List Char :=
  written.year ++ '-' :: (written.month ++ '-' :: (written.day ++
    written.separator :: written.clockText))

def date (written : Written) : Date where
  year := digitsValue written.year
  month := digitsValue written.month
  day := digitsValue written.day

/-- From the start of the date on, in universal time. -/
def minutesOfDay (written : Written) : Int :=
  digitsValue written.hour * 60 + digitsValue written.minute - written.zone.minutes

structure Valid (written : Written) : Prop where
  year : IsNumber 4 written.year
  month : IsNumber 2 written.month
  day : IsNumber 2 written.day
  date : written.date.IsValid = true
  separator : written.separator.toNat < 128
  hour : IsNumber 2 written.hour
  hour_le : digitsValue written.hour ≤ 23
  minute : IsNumber 2 written.minute
  minute_le : digitsValue written.minute ≤ 59
  second : IsNumber 2 written.second
  second_le : digitsValue written.second ≤ 60
  leap : digitsValue written.second = 60 →
    isLastMinuteOfMonth written.date written.minutesOfDay = true
  fraction : ∀ digit ∈ written.fraction, isDigit digit = true
  zone : written.zone.Valid

theorem valid_iff {written : Written} :
    written.Valid ↔
      (IsNumber 4 written.year ∧ IsNumber 2 written.month ∧ IsNumber 2 written.day ∧
        written.date.IsValid = true ∧ written.separator.toNat < 128) ∧
      (IsNumber 2 written.hour ∧ digitsValue written.hour ≤ 23) ∧
      (IsNumber 2 written.minute ∧ digitsValue written.minute ≤ 59) ∧
      (IsNumber 2 written.second ∧ digitsValue written.second ≤ 60 ∧
        (digitsValue written.second = 60 →
          isLastMinuteOfMonth written.date written.minutesOfDay = true)) ∧
      written.fraction.all isDigit = true ∧ written.zone.Valid := by
  rw [List.all_eq_true]
  constructor
  · intro valid
    exact ⟨⟨valid.year, valid.month, valid.day, valid.date, valid.separator⟩,
      ⟨valid.hour, valid.hour_le⟩, ⟨valid.minute, valid.minute_le⟩,
      ⟨valid.second, valid.second_le, valid.leap⟩, valid.fraction, valid.zone⟩
  · intro parts
    rcases parts with ⟨⟨year, month, day, date, separator⟩, ⟨hour, hour_le⟩, ⟨minute, minute_le⟩,
      ⟨second, second_le, leap⟩, fraction, zone⟩
    exact ⟨year, month, day, date, separator, hour, hour_le, minute, minute_le, second, second_le,
      leap, fraction, zone⟩

instance (written : Written) : Decidable written.Valid :=
  decidable_of_iff _ valid_iff.symm

/-- What is read. -/
def value (written : Written) : Timestamp where
  date := written.date
  hour := digitsValue written.hour
  minute := digitsValue written.minute
  second := min (digitsValue written.second) 59

end Written

/-! Reading one part. -/

theorem takePart_append {greatest : Nat} {digits : List Char} (number : IsNumber 2 digits)
    (small : digitsValue digits ≤ greatest) (rest : List Char) :
    takePart greatest (digits ++ rest) = some (digitsValue digits, rest) := by
  rw [takePart, takeDigits_append number]
  exact if_pos small

theorem takePart_eq_some_iff {greatest value : Nat} {text rest : List Char} :
    takePart greatest text = some (value, rest) ↔
      ∃ digits, IsNumber 2 digits ∧ digitsValue digits ≤ greatest ∧ text = digits ++ rest ∧
        value = digitsValue digits := by
  constructor
  · intro taken
    rcases Option.bind_eq_some_iff.mp taken with ⟨⟨found, others⟩, read, bounded⟩
    rcases takeDigits_eq_some_iff.mp read with ⟨digits, number, rfl, rfl⟩
    simp only [] at bounded
    split at bounded
    · next small =>
        cases bounded
        exact ⟨digits, number, small, rfl, rfl⟩
    · cases bounded
  · intro written
    rcases written with ⟨digits, number, small, rfl, rfl⟩
    exact takePart_append number small rest

theorem takeMark_eq_some_iff {mark : Char} {text rest : List Char} :
    takeMark mark text = some rest ↔ text = mark :: rest := by
  cases text with
  | nil => simp [takeMark]
  | cons head tail =>
      by_cases same : head = mark
      · simp [takeMark, same]
      · simp [takeMark, same]

theorem takeSeparator_eq_some_iff {text rest : List Char} :
    takeSeparator text = some rest ↔
      ∃ separator, separator.toNat < 128 ∧ text = separator :: rest := by
  cases text with
  | nil => simp [takeSeparator]
  | cons head tail =>
      by_cases small : head.toNat < 128
      · simp [takeSeparator, small]
      · simp [takeSeparator, small]

namespace Zone

/-- It starts with neither a digit nor a point. -/
theorem Valid.text_eq {zone : Zone} (valid : zone.Valid) :
    ∃ head tail, zone.text = head :: tail ∧ isDigit head = false ∧ head ≠ '.' := by
  cases valid with
  | universal isMark => exact ⟨_, _, rfl, by rcases isMark with rfl | rfl <;> decide⟩
  | offset isSign => exact ⟨_, _, rfl, by rcases isSign with rfl | rfl <;> decide⟩

theorem Valid.endsDigits {zone : Zone} (valid : zone.Valid) : EndsDigits zone.text := by
  rcases valid.text_eq with ⟨head, tail, same, noDigit, -⟩
  intro first isFirst
  rw [same, List.head?_cons, Option.mem_some_iff] at isFirst
  rw [← isFirst]
  exact noDigit

theorem Valid.noPoint {zone : Zone} (valid : zone.Valid) : zone.text.head? ≠ some '.' := by
  rcases valid.text_eq with ⟨head, tail, same, -, noPoint⟩
  rw [same, List.head?_cons, ne_eq, Option.some.injEq]
  exact noPoint

theorem Valid.minutes_lt {zone : Zone} (valid : zone.Valid) :
    -1440 < zone.minutes ∧ zone.minutes < 1440 := by
  cases valid with
  | universal mark =>
      rw [Zone.minutes]
      omega
  | offset sign hours hours_le minutes minutes_le =>
      rw [Zone.minutes]
      split <;> omega

theorem Valid.readOffset_text {zone : Zone} (valid : zone.Valid) :
    readOffset zone.text = some zone.minutes := by
  cases valid with
  | universal mark => rcases mark with rfl | rfl <;> rfl
  | offset sign hours hoursSmall minutes minutesSmall =>
      have read := takePart_append hours hoursSmall
      have readLast := takePart_append minutes minutesSmall []
      rw [List.append_nil] at readLast
      rcases sign with rfl | rfl <;>
        simp [Zone.text, readOffset, Zone.minutes, read, takeMark, readLast]

end Zone

theorem zone_of_readOffset {text : List Char} {offset : Int}
    (read : readOffset text = some offset) :
    ∃ zone : Zone, zone.Valid ∧ text = zone.text ∧ offset = zone.minutes := by
  unfold readOffset at read
  split at read
  · cases read
    exact ⟨.universal 'Z', .universal (.inl rfl), rfl, rfl⟩
  · cases read
    exact ⟨.universal 'z', .universal (.inr rfl), rfl, rfl⟩
  · next sign text _ _ =>
      rcases Option.bind_eq_some_iff.mp read with ⟨⟨hours, afterHours⟩, hoursRead, read⟩
      rcases Option.bind_eq_some_iff.mp read with ⟨afterMark, markRead, read⟩
      rcases Option.bind_eq_some_iff.mp read with ⟨⟨minutes, rest⟩, minutesRead, read⟩
      rcases takePart_eq_some_iff.mp hoursRead with ⟨hourDigits, hoursNumber, hoursSmall, rfl, rfl⟩
      rcases takePart_eq_some_iff.mp minutesRead with
        ⟨minuteDigits, minutesNumber, minutesSmall, rfl, rfl⟩
      have same := takeMark_eq_some_iff.mp markRead
      simp only [] at read
      split at read
      · cases read
      · next nothing =>
          have isNil : rest = [] := by simpa using nothing
          rw [same, isNil, List.append_nil]
          split at read
          · next ahead =>
              cases read
              subst ahead
              exact ⟨.offset '+' hourDigits minuteDigits, .offset (.inl rfl) hoursNumber hoursSmall
                minutesNumber minutesSmall, rfl, by simp [Zone.minutes]⟩
          · split at read
            · next behind =>
                cases read
                subst behind
                exact ⟨.offset '-' hourDigits minuteDigits, .offset (.inr rfl) hoursNumber
                  hoursSmall minutesNumber minutesSmall, rfl, by simp [Zone.minutes]⟩
            · cases read
  · cases read

/-! The fraction of a second. -/

theorem takeFraction_append {digits rest : List Char}
    (all : ∀ digit ∈ digits, isDigit digit = true) (ends : EndsDigits rest)
    (noPoint : rest.head? ≠ some '.') :
    takeFraction (fractionText digits ++ rest) = some rest := by
  cases digits with
  | nil =>
      rw [fractionText, List.nil_append]
      unfold takeFraction
      split
      · exact absurd rfl noPoint
      · rfl
  | cons head tail =>
      have spanned : spanDigits (head :: tail ++ rest) = (head :: tail, rest) := by
        rw [spanDigits_append _ fun _ => ends, spanDigits_of_all all]
        rfl
      have marked : fractionText (head :: tail) ++ rest = '.' :: (head :: tail ++ rest) := rfl
      simp only [marked, takeFraction, spanned]

theorem fraction_of_takeFraction {text rest : List Char} (taken : takeFraction text = some rest) :
    ∃ digits, (∀ digit ∈ digits, isDigit digit = true) ∧ text = fractionText digits ++ rest := by
  cases text with
  | nil =>
      cases taken
      exact ⟨[], List.forall_mem_nil _, rfl⟩
  | cons mark text =>
      by_cases isPoint : mark = '.'
      · subst isPoint
        rcases spanned : spanDigits text with ⟨digits, others⟩
        simp only [takeFraction, spanned] at taken
        rw [spanDigits, Prod.mk.injEq] at spanned
        cases digits with
        | nil => cases taken
        | cons head tail =>
            cases taken
            refine ⟨head :: tail, ?_, ?_⟩
            · rw [← spanned.1]
              exact fun digit member => List.mem_takeWhile_imp member
            · have whole : text = head :: tail ++ rest := by
                rw [← spanned.1, ← spanned.2, List.takeWhile_append_dropWhile]
              rw [whole]
              rfl
      · have same : takeFraction (mark :: text) = some (mark :: text) := by
          simp [takeFraction, isPoint]
        rw [same] at taken
        cases taken
        exact ⟨[], List.forall_mem_nil _, rfl⟩

/-! Reading the whole text. -/

theorem readSecond_eq_some_iff {date : Date} {minutes : Int} {second shown : Nat}
    (second_le : second ≤ 60) :
    readSecond date minutes second = some shown ↔
      (second = 60 → isLastMinuteOfMonth date minutes = true) ∧ shown = min second 59 := by
  unfold readSecond
  by_cases ordinary : second < 60
  · rw [if_pos ordinary, Option.some.injEq]
    omega
  · have isLeap : second = 60 := by omega
    rw [if_neg ordinary, isLeap]
    cases isLastMinuteOfMonth date minutes <;> simp [eq_comm]

namespace Written

variable {written : Written}

theorem Valid.date_le (valid : written.Valid) :
    1 ≤ digitsValue written.month ∧ digitsValue written.month ≤ 12 ∧
      1 ≤ digitsValue written.day ∧ digitsValue written.day ≤ 31 ∧
        digitsValue written.day ≤ daysIn (digitsValue written.year) (digitsValue written.month) := by
  rcases Date.isValid_iff.mp valid.date with ⟨month, month_le, day, day_le⟩
  exact ⟨month, month_le, day, day_le.trans (daysIn_le _ month month_le), day_le⟩

theorem Valid.clock_lt (valid : written.Valid) :
    digitsValue written.hour * 60 + digitsValue written.minute < 1440 := by
  have hour_le := valid.hour_le
  have minute_le := valid.minute_le
  omega

theorem Valid.read?_text (valid : written.Valid) : read? written.text = some written.value := by
  rcases valid.date_le with ⟨-, month_le, -, day_le, -⟩
  have year := takeDigits_append valid.year
  have month := takePart_append valid.month month_le
  have day := takePart_append valid.day day_le
  have hour := takePart_append valid.hour valid.hour_le
  have minute := takePart_append valid.minute valid.minute_le
  have second := takePart_append valid.second valid.second_le
  have fraction := takeFraction_append valid.fraction valid.zone.endsDigits valid.zone.noPoint
  have shown := (readSecond_eq_some_iff valid.second_le).mpr ⟨valid.leap, rfl⟩
  refine Option.bind_eq_some_iff.mpr ⟨_, year _, ?_⟩
  refine Option.bind_eq_some_iff.mpr ⟨_, takeMark_eq_some_iff.mpr rfl, ?_⟩
  refine Option.bind_eq_some_iff.mpr ⟨_, month _, ?_⟩
  refine Option.bind_eq_some_iff.mpr ⟨_, takeMark_eq_some_iff.mpr rfl, ?_⟩
  refine Option.bind_eq_some_iff.mpr ⟨_, day _, ?_⟩
  refine Option.bind_eq_some_iff.mpr
    ⟨_, takeSeparator_eq_some_iff.mpr ⟨_, valid.separator, rfl⟩, ?_⟩
  refine Option.bind_eq_some_iff.mpr ⟨_, hour _, ?_⟩
  refine Option.bind_eq_some_iff.mpr ⟨_, takeMark_eq_some_iff.mpr rfl, ?_⟩
  refine Option.bind_eq_some_iff.mpr ⟨_, minute _, ?_⟩
  refine Option.bind_eq_some_iff.mpr ⟨_, takeMark_eq_some_iff.mpr rfl, ?_⟩
  refine Option.bind_eq_some_iff.mpr ⟨_, second _, ?_⟩
  refine Option.bind_eq_some_iff.mpr ⟨_, fraction, ?_⟩
  refine Option.bind_eq_some_iff.mpr ⟨_, valid.zone.readOffset_text, ?_⟩
  change (if !written.date.IsValid then none else
    (readSecond written.date written.minutesOfDay _).bind _) = _
  rw [valid.date, shown]
  rfl

/-- Every timestamp is put together from parts. -/
theorem of_read? {text : List Char} {time : Timestamp} (read : read? text = some time) :
    ∃ written : Written, written.Valid ∧ text = written.text ∧ time = written.value := by
  rcases Option.bind_eq_some_iff.mp read with ⟨⟨year, afterYear⟩, yearRead, read⟩
  rcases Option.bind_eq_some_iff.mp read with ⟨fromMonth, yearMark, read⟩
  rcases Option.bind_eq_some_iff.mp read with ⟨⟨month, afterMonth⟩, monthRead, read⟩
  rcases Option.bind_eq_some_iff.mp read with ⟨fromDay, monthMark, read⟩
  rcases Option.bind_eq_some_iff.mp read with ⟨⟨day, afterDay⟩, dayRead, read⟩
  rcases Option.bind_eq_some_iff.mp read with ⟨fromHour, separatorRead, read⟩
  rcases Option.bind_eq_some_iff.mp read with ⟨⟨hour, afterHour⟩, hourRead, read⟩
  rcases Option.bind_eq_some_iff.mp read with ⟨fromMinute, hourMark, read⟩
  rcases Option.bind_eq_some_iff.mp read with ⟨⟨minute, afterMinute⟩, minuteRead, read⟩
  rcases Option.bind_eq_some_iff.mp read with ⟨fromSecond, minuteMark, read⟩
  rcases Option.bind_eq_some_iff.mp read with ⟨⟨second, afterSecond⟩, secondRead, read⟩
  rcases Option.bind_eq_some_iff.mp read with ⟨zoneText, fractionRead, read⟩
  rcases Option.bind_eq_some_iff.mp read with ⟨offset, zoneRead, read⟩
  rcases takeDigits_eq_some_iff.mp yearRead with ⟨yearDigits, isYear, rfl, rfl⟩
  rcases takePart_eq_some_iff.mp monthRead with ⟨monthDigits, isMonth, -, rfl, rfl⟩
  rcases takePart_eq_some_iff.mp dayRead with ⟨dayDigits, isDay, -, rfl, rfl⟩
  rcases takeSeparator_eq_some_iff.mp separatorRead with ⟨separator, isSeparator, rfl⟩
  rcases takePart_eq_some_iff.mp hourRead with ⟨hourDigits, isHour, hour_le, rfl, rfl⟩
  rcases takePart_eq_some_iff.mp minuteRead with ⟨minuteDigits, isMinute, minute_le, rfl, rfl⟩
  rcases takePart_eq_some_iff.mp secondRead with ⟨secondDigits, isSecond, second_le, rfl, rfl⟩
  rcases fraction_of_takeFraction fractionRead with ⟨fraction, isFraction, rfl⟩
  rcases zone_of_readOffset zoneRead with ⟨zone, isZone, rfl, rfl⟩
  let written : Written := ⟨yearDigits, monthDigits, dayDigits, separator, hourDigits,
    minuteDigits, secondDigits, fraction, zone⟩
  change (if !written.date.IsValid then none else
    (readSecond written.date written.minutesOfDay (digitsValue written.second)).bind fun second =>
      some ⟨written.date, digitsValue hourDigits, digitsValue minuteDigits, second⟩) =
        some time at read
  split at read
  · cases read
  · next date =>
      rw [Bool.not_eq_true', Bool.not_eq_false] at date
      rcases Option.bind_eq_some_iff.mp read with ⟨shown, secondShown, isTime⟩
      rw [readSecond_eq_some_iff second_le] at secondShown
      refine ⟨written, ⟨isYear, isMonth, isDay, date, isSeparator, isHour, hour_le, isMinute,
        minute_le, isSecond, second_le, secondShown.1, isFraction, isZone⟩, ?_, ?_⟩
      · rw [takeMark_eq_some_iff.mp yearMark, takeMark_eq_some_iff.mp monthMark,
          takeMark_eq_some_iff.mp hourMark, takeMark_eq_some_iff.mp minuteMark]
        rfl
      · cases isTime
        rw [secondShown.2]
        rfl

theorem read?_eq_some_iff {text : List Char} {time : Timestamp} :
    read? text = some time ↔
      ∃ written : Written, written.Valid ∧ text = written.text ∧ time = written.value := by
  constructor
  · exact of_read?
  · intro exists_written
    rcases exists_written with ⟨written, valid, rfl, rfl⟩
    exact valid.read?_text

end Written

end ExportWatch.Timestamp
