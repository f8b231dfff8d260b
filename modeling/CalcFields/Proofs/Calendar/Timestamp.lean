import CalcFields.Proofs.Calendar.Reading

/-!
What the readers give lies in a kept year, and in a leap second only at the end of a minute. The
text of such an instant reads back to the millisecond in the years of four digits; in the years that
have a sign it is not read, since timestamps have none and the other forms have no offset.
-/

namespace CalcFields

/-- A run of digits is less than the power of ten of its length. -/
theorem digitsValue_lt {digits : List Char} (plain : AllDigits digits) :
    digitsValue digits < 10 ^ digits.length := by
  -- The number grows by its last digit, so the induction takes digits off the end.
  induction digits using List.reverseRecOn with
  | nil => decide
  | append_singleton digits c ih =>
    -- The last digit counts ones, and all before it tens.
    have before := ih fun d member => plain d (List.mem_append_left _ member)
    have digit := plain c (List.mem_append_right _ (List.mem_singleton_self c))
    have small : digitValue c ≤ 9 := by
      simp only [Char.isDigit, Bool.and_eq_true, decide_eq_true_eq, ge_iff_le,
        UInt32.le_iff_toNat_le] at digit
      have : c.toNat ≤ 57 := digit.2
      rw [digitValue]
      show c.toNat - 48 ≤ 9
      omega
    have last : digitsValue (digits ++ [c]) = 10 * digitsValue digits + digitValue c := by
      rw [digitsValue, List.foldl_append]
      rfl
    rw [last, List.length_append, List.length_singleton, pow_succ]
    omega

/-- A number that is taken is less than the power of ten of the digits it takes. -/
theorem takeNumber?_bounds {least greatest n : Nat} {cs rest : List Char}
    (taken : takeNumber? least greatest cs = some (n, rest)) :
    n < 10 ^ (cs.length - rest.length) ∧ cs.length - rest.length ≤ greatest := by
  -- What is taken are the digits at the front of a cut of the text.
  let digits := (cs.take greatest).takeWhile Char.isDigit
  have value : digitsValue digits = n ∧ cs.drop digits.length = rest := by
    rw [takeNumber?] at taken
    split at taken
    · cases taken
    · exact ⟨congrArg Prod.fst (Option.some.inj taken), congrArg Prod.snd (Option.some.inj taken)⟩
  have few : digits.length ≤ min greatest cs.length :=
    (List.takeWhile_prefix _).length_le.trans_eq (List.length_take)
  have plain : AllDigits digits := fun c member => List.mem_takeWhile_imp member
  -- What is gone from the text is as long as the digits.
  have gone : cs.length - rest.length = digits.length := by
    rw [← value.2, List.length_drop]
    omega
  rw [gone, ← value.1]
  exact ⟨digitsValue_lt plain, by omega⟩

/-- A fraction is less than a second. -/
theorem takeFraction?_lt {nano : Nat} {cs rest : List Char}
    (taken : takeFraction? cs = some (nano, rest)) : nano < nanosPerSecond := by
  -- At most nine digits are taken, and zeros are added up to nine.
  rw [takeFraction?.eq_def] at taken
  split at taken
  · rename_i digits
    obtain ⟨⟨n, after⟩, number, scaled⟩ := Option.bind_eq_some_iff.1 taken
    have value : n * 10 ^ (9 - (digits.length - after.length)) = nano :=
      congrArg Prod.fst (Option.some.inj scaled)
    obtain ⟨less, few⟩ := takeNumber?_bounds number
    calc nano = n * 10 ^ (9 - (digits.length - after.length)) := value.symm
      _ < 10 ^ (digits.length - after.length) * 10 ^ (9 - (digits.length - after.length)) :=
        Nat.mul_lt_mul_of_pos_right less (Nat.pow_pos (by decide))
      _ = 10 ^ 9 := by rw [← pow_add, Nat.add_sub_cancel' few]
      _ = nanosPerSecond := rfl
  · -- Without a point there is no fraction.
    cases taken
    decide

/-- An offset is less than a day and consists of whole minutes. -/
theorem takeOffset?_bounds {offset : Int} {cs rest : List Char}
    (taken : takeOffset? cs = some (offset, rest)) :
    offset % 60 = 0 ∧ -86400 < offset ∧ offset < 86400 := by
  -- An offset is a number of minutes, less than a day of them.
  rw [takeOffset?.eq_def] at taken
  split at taken
  · cases taken
  -- The letter is no offset at all, and behind a sign hours and minutes are checked.
  split at taken
  · cases taken
    decide
  split at taken
  · obtain ⟨⟨hours, afterHours⟩, -, taken⟩ := Option.bind_eq_some_iff.1 taken
    obtain ⟨minuteText, -, taken⟩ := Option.bind_eq_some_iff.1 taken
    obtain ⟨⟨minutes, after⟩, -, taken⟩ := Option.bind_eq_some_iff.1 taken
    dsimp only at taken
    split at taken
    · cases taken
    rename_i bounded
    have few : hours < 24 ∧ minutes < 60 := by simpa using bounded
    have value := congrArg Prod.fst (Option.some.inj taken)
    dsimp only at value
    split at value <;> omega
  · cases taken

namespace Instant

/-- An instant that is kept lies in a kept year, and in a leap second only at the end of a
minute. -/
structure Kept (t : Instant) : Prop where
  day : keepsDay t.day = true
  leap : nanosPerSecond ≤ t.nano → t.second % 60 = 59

variable {t : Instant}

/-- A time of day that is read lies in a leap second only at the end of a minute. -/
theorem leap_of_timeOfDay? {hour minute second nano inDay fraction : Nat}
    (less : nano < nanosPerSecond)
    (found : timeOfDay? hour minute second nano = some (inDay, fraction)) :
    nanosPerSecond ≤ fraction → inDay % 60 = 59 := by
  -- A fraction of more than a second is made only where the text says sixty seconds.
  rw [timeOfDay?] at found
  split at found
  · cases found
  split at found <;> cases found
  · omega
  · exact fun leap => absurd leap less.not_ge

/-- A date with a time of day is kept when the date exists. -/
theorem kept_of_instantAt? {date : Date} {inDay fraction : Nat} (kept : date.Kept)
    (leap : nanosPerSecond ≤ fraction → inDay % 60 = 59)
    (found : instantAt? date inDay fraction = some t) : t.Kept := by
  -- An instant is made of a kept date only.
  rw [instantAt?] at found
  split at found
  · cases found
    exact ⟨kept.keepsDay, leap⟩
  · cases found

/-- The start of a day is kept when the day is. -/
theorem kept_midnight {day : Int} (kept : keepsDay day = true) : (midnight day).Kept :=
  ⟨kept, fun leap => absurd leap (Nat.not_le.2 (Nat.zero_lt_succ _))⟩

/-- An instant of a number of milliseconds is kept. -/
theorem kept_of_ofMillis? {millis : Int} (found : ofMillis? millis = some t) : t.Kept := by
  rw [ofMillis?] at found
  split at found
  · rename_i kept
    cases found
    -- What is left of a number of milliseconds is less than a second.
    refine ⟨kept, fun leap => absurd leap (not_le.2 ?_)⟩
    show (millis % 86400000).toNat % 1000 * 1000000 < 1000000000
    omega
  · cases found

end Instant

/-- A time of day that is read lies in a leap second only at the end of a minute. -/
theorem leap_of_readTime? {withSeconds : Bool} {cs : List Char} {inDay fraction : Nat}
    (found : readTime? withSeconds cs = some (inDay, fraction)) :
    nanosPerSecond ≤ fraction → inDay % 60 = 59 := by
  -- Hours and minutes are read first; seconds and a fraction may follow.
  obtain ⟨⟨hour, afterHour⟩, -, found⟩ := Option.bind_eq_some_iff.1 found
  obtain ⟨minuteText, -, found⟩ := Option.bind_eq_some_iff.1 found
  obtain ⟨⟨minute, afterMinute⟩, -, found⟩ := Option.bind_eq_some_iff.1 found
  dsimp only at found
  split at found
  · obtain ⟨secondText, -, found⟩ := Option.bind_eq_some_iff.1 found
    obtain ⟨⟨second, afterSecond⟩, -, found⟩ := Option.bind_eq_some_iff.1 found
    obtain ⟨⟨nano, rest⟩, fraction, found⟩ := Option.bind_eq_some_iff.1 found
    dsimp only at found
    split at found
    · exact Instant.leap_of_timeOfDay? (takeFraction?_lt fraction) found
    · cases found
  · split at found
    · -- Without seconds there is no fraction.
      exact Instant.leap_of_timeOfDay? (by decide) found
    · cases found

/-- A date that is taken exists. -/
theorem kept_of_takeDate? {date : Date} {cs rest : List Char}
    (found : takeDate? cs = some (date, rest)) : date.Kept := by
  -- The last step of the reader asks whether the date exists.
  obtain ⟨⟨year, afterYear⟩, -, found⟩ := Option.bind_eq_some_iff.1 found
  obtain ⟨monthText, -, found⟩ := Option.bind_eq_some_iff.1 found
  obtain ⟨⟨month, afterMonth⟩, -, found⟩ := Option.bind_eq_some_iff.1 found
  obtain ⟨dayText, -, found⟩ := Option.bind_eq_some_iff.1 found
  obtain ⟨⟨day, afterDay⟩, -, found⟩ := Option.bind_eq_some_iff.1 found
  obtain ⟨there, existing, found⟩ := Option.bind_eq_some_iff.1 found
  cases found
  exact (Date.exists?_eq_some_iff.1 existing).2

/-- A timestamp that is read is kept: an offset moves it to a day beside its date at most, and by
whole minutes. -/
theorem Instant.kept_of_readTimestamp? {t : Instant} {cs : List Char}
    (found : readTimestamp? cs = some t) : t.Kept := by
  -- The reader takes one part after the other, and the bounds are asked of three of them.
  obtain ⟨⟨year, afterYear⟩, years, found⟩ := Option.bind_eq_some_iff.1 found
  obtain ⟨monthText, -, found⟩ := Option.bind_eq_some_iff.1 found
  obtain ⟨⟨month, afterMonth⟩, -, found⟩ := Option.bind_eq_some_iff.1 found
  obtain ⟨dayText, -, found⟩ := Option.bind_eq_some_iff.1 found
  obtain ⟨⟨day, afterDay⟩, -, found⟩ := Option.bind_eq_some_iff.1 found
  obtain ⟨hourText, -, found⟩ := Option.bind_eq_some_iff.1 found
  obtain ⟨⟨hour, afterHour⟩, -, found⟩ := Option.bind_eq_some_iff.1 found
  obtain ⟨minuteText, -, found⟩ := Option.bind_eq_some_iff.1 found
  obtain ⟨⟨minute, afterMinute⟩, -, found⟩ := Option.bind_eq_some_iff.1 found
  obtain ⟨secondText, -, found⟩ := Option.bind_eq_some_iff.1 found
  obtain ⟨⟨second, afterSecond⟩, -, found⟩ := Option.bind_eq_some_iff.1 found
  obtain ⟨⟨nano, afterFraction⟩, fraction, found⟩ := Option.bind_eq_some_iff.1 found
  obtain ⟨⟨offset, rest⟩, offsets, found⟩ := Option.bind_eq_some_iff.1 found
  dsimp only at found
  split at found
  · cases found
  obtain ⟨date, existing, found⟩ := Option.bind_eq_some_iff.1 found
  obtain ⟨⟨inDay, within⟩, time, found⟩ := Option.bind_eq_some_iff.1 found
  obtain ⟨here, placed, found⟩ := Option.bind_eq_some_iff.1 found
  obtain ⟨parts, kept⟩ := Date.exists?_eq_some_iff.1 existing
  -- Four digits stay below ten thousand.
  have few : date.year = year ∧ year ≤ 9999 :=
    ⟨congrArg Date.year parts, Nat.le_of_lt_succ ((takeNumber?_bounds years).1.trans_le
      (Nat.pow_le_pow_right (by decide) (takeNumber?_bounds years).2))⟩
  have bounds := kept.toDay_bounds ⟨by omega, by omega⟩
  have leap := leap_of_timeOfDay? (takeFraction?_lt fraction) time
  obtain ⟨whole, back, ahead⟩ := takeOffset?_bounds offsets
  rw [instantAt?] at placed
  split at placed
  · rename_i valid
    cases placed
    cases found
    -- The offset moves the day by one at most, which is far from the bounds in four digits.
    have kept : keepsDay (date.toDay + ((inDay : Int) + -offset) / 86400) = true := by
      rw [keepsDay, Bool.and_eq_true, decide_eq_true_eq, decide_eq_true_eq]
      have first : yearStart minYear ≤ -1000000 := by decide
      have last : 4000000 ≤ yearStart (maxYear + 1) := by decide
      omega
    -- Whole minutes keep the place in the minute.
    refine ⟨kept, fun late => ?_⟩
    have last := leap late
    show (((inDay : Int) + -offset) % 86400).toNat % 60 = 59
    omega
  · cases placed

namespace Instant

variable {t : Instant}

/-- A date with a time that is read is kept. -/
theorem kept_of_readDateTime? {marked withSeconds : Bool} {cs : List Char}
    (found : readDateTime? marked withSeconds cs = some t) : t.Kept := by
  -- With a letter between date and time or without one, the time is placed on the date.
  obtain ⟨⟨date, rest⟩, taken, found⟩ := Option.bind_eq_some_iff.1 found
  have placed {timeText : List Char} (found : (readTime? withSeconds timeText).bind
      (fun time => instantAt? date time.1 time.2) = some t) : t.Kept := by
    obtain ⟨⟨inDay, fraction⟩, time, found⟩ := Option.bind_eq_some_iff.1 found
    exact kept_of_instantAt? (kept_of_takeDate? taken) (leap_of_readTime? time) found
  dsimp only at found
  split at found
  · obtain ⟨timeText, -, found⟩ := Option.bind_eq_some_iff.1 found
    exact placed found
  · exact placed found

/-- A date alone that is read is kept. -/
theorem kept_of_readDate? {cs : List Char} (found : readDate? cs = some t) : t.Kept := by
  -- A date alone is the midnight of a kept day.
  obtain ⟨⟨date, rest⟩, taken, found⟩ := Option.bind_eq_some_iff.1 found
  dsimp only at found
  split at found
  · cases found
    exact kept_midnight (kept_of_takeDate? taken).keepsDay
  · cases found

/-- An instant that a text spells is kept. -/
theorem kept_of_readInstant? {text : String} (found : readInstant? text = some t) : t.Kept := by
  -- One of the six readers has read the instant.
  rw [readInstant?] at found
  split at found
  · cases found
  simp only [Option.orElse_eq_orElse, Option.orElse_eq_or, Option.or_eq_some_iff] at found
  obtain found | ⟨-, found | ⟨-, found | ⟨-, found | ⟨-, found | ⟨-, found⟩⟩⟩⟩⟩ := found
  · exact kept_of_readTimestamp? found
  · exact kept_of_readDateTime? found
  · exact kept_of_readDateTime? found
  · exact kept_of_readDateTime? found
  · exact kept_of_readDateTime? found
  · exact kept_of_readDate? found

/-- The time of day of an instant with the letter of its offset behind it. -/
def clock (t : Instant) : List Char :=
  (padded 2 (t.second / 3600)).toList ++ ':' :: ((padded 2 (t.second / 60 % 60)).toList ++ ':' ::
    ((padded 2 (t.second % 60 + t.nano / nanosPerSecond)).toList ++ '.' ::
      ((padded 3 (t.nano % nanosPerSecond / 1000000)).toList ++ ['Z'])))

/-- The text of an instant is its date, a mark and its time of day. -/
theorem toList_text (t : Instant) : t.text.toList = t.date.text.toList ++ 'T' :: t.clock := by
  -- The parts and the marks between them are written in this order.
  have mark : "T".toList = ['T'] := rfl
  have colon : ":".toList = [':'] := rfl
  have point : ".".toList = ['.'] := rfl
  have offset : "Z".toList = ['Z'] := rfl
  simp only [text, clock, dateText, String.toList_append, mark, colon, point, offset,
    List.append_assoc, List.cons_append, List.nil_append]

/-- The text of an instant lacks what is less than a millisecond. -/
theorem text_wholeMillis (t : Instant) : t.wholeMillis.text = t.text := by
  have nano : t.wholeMillis.nano = t.nano / 1000000 * 1000000 := rfl
  -- Dropping what is less than a millisecond leaves the second and tells a leap second as before.
  have leap : t.wholeMillis.nano / nanosPerSecond = t.nano / nanosPerSecond := by
    rw [nano, nanosPerSecond]
    omega
  have millis : t.wholeMillis.nano % nanosPerSecond / 1000000 =
      t.nano % nanosPerSecond / 1000000 := by
    rw [nano, nanosPerSecond]
    omega
  have day : t.wholeMillis.dateText = t.dateText := rfl
  have second : t.wholeMillis.second = t.second := rfl
  rw [text, text, leap, millis, day, second]

/-- There are no blanks in the text of an instant. -/
theorem isBlank_of_mem_text {c : Char} (member : c ∈ t.text.toList) : isBlank c = false := by
  -- Every part is made of digits, and no mark is a blank.
  have digit {width n : Nat} (member : c ∈ (padded width n).toList) : isBlank c = false :=
    isBlank_of_isDigit (allDigits_padded width n c member)
  rw [toList_text, clock] at member
  simp only [List.mem_append, List.mem_cons, List.not_mem_nil, or_false] at member
  obtain date | rfl | hour | rfl | minute | rfl | second | rfl | millis | rfl := member
  · exact Date.isBlank_of_mem_text date
  · decide
  · exact digit hour
  · decide
  · exact digit minute
  · decide
  · exact digit second
  · decide
  · exact digit millis
  · decide

/-- The time of day of an instant that is kept reads back to the millisecond. -/
theorem Kept.timeOfDay?_eq (kept : t.Kept) :
    timeOfDay? (t.second / 3600) (t.second / 60 % 60) (t.second % 60 + t.nano / nanosPerSecond)
      (t.nano % nanosPerSecond / 1000000 * 1000000) = some (t.second, t.wholeMillis.nano) := by
  -- The text says sixty seconds for a leap second, and so does the reader.
  have leap := kept.leap
  have second := t.second_lt
  have nano := t.nano_lt
  have whole : t.wholeMillis.nano = t.nano / 1000000 * 1000000 := rfl
  rw [whole, timeOfDay?]
  rw [nanosPerSecond] at leap ⊢
  rw [if_neg (by simp only [Bool.or_eq_true, decide_eq_true_eq]; omega)]
  by_cases late : 1000000000 ≤ t.nano
  · -- The sixtieth second is read as the fifty-ninth with a second more of fraction.
    have last := leap late
    rw [if_pos (by simp only [beq_iff_eq]; omega)]
    exact congrArg some (Prod.ext (by dsimp only; omega) (by dsimp only; omega))
  · -- Any other second is read as it is written.
    rw [if_neg (by simp only [beq_iff_eq]; omega)]
    exact congrArg some (Prod.ext (by dsimp only; omega) (by dsimp only; omega))

/-- The minutes of an instant are written with two digits, and so are its hours and seconds. -/
theorem clock_lt (t : Instant) : t.second / 3600 < 100 ∧ t.second / 60 % 60 < 100 ∧
    t.second % 60 + t.nano / nanosPerSecond < 100 := by
  -- Two digits are enough, even for the sixtieth second.
  have second := t.second_lt
  have nano := t.nano_lt
  rw [nanosPerSecond]
  omega

/-- Three digits behind a point are taken as milliseconds. -/
theorem takeFraction?_padded {millis : Nat} (few : millis < 1000) :
    takeFraction? ('.' :: ((padded 3 millis).toList ++ ['Z'])) =
      some (millis * 1000000, ['Z']) := by
  -- Three digits are scaled by the six that are missing.
  have long := length_padded (by decide : 0 < 3) few
  have taken : takeNumber? 1 9 ((padded 3 millis).toList ++ ['Z']) = some (millis, ['Z']) := by
    rw [takeNumber?_digits (allDigits_padded 3 millis) (by omega) (by omega)
      (.inr fun c head => by cases head; rfl), digitsValue_padded]
  rw [takeFraction?, taken]
  dsimp only [Option.bind_eq_bind, Option.bind_some]
  rw [List.length_append, long]
  rfl

/-- An offset of zero leaves an instant where it is. -/
theorem shiftSeconds_zero (t : Instant) : t.shiftSeconds 0 = t := by
  -- No seconds are carried over to the day.
  refine ext_secondNumber ?_ rfl
  rw [shiftSeconds, secondNumber_ofSeconds, secondNumber]
  omega

/-- In a year of four digits the text of an instant is a timestamp of it to the millisecond. -/
theorem Kept.readTimestamp?_text (kept : t.Kept) (short : 0 ≤ t.date.year ∧ t.date.year ≤ 9999) :
    readTimestamp? t.text.toList = some t.wholeMillis := by
  obtain ⟨hours, minutes, seconds⟩ := t.clock_lt
  have date : t.date.Kept := Date.kept_ofDay kept.day
  have number {n : Nat} (few : n < 100) (rest : List Char) :
      takeNumber? 2 2 ((padded 2 n).toList ++ rest) = some (n, rest) :=
    takeNumber?_padded (by decide) few le_rfl rest
  have colon (rest : List Char) : dropChar? ':' (':' :: rest) = some rest := rfl
  have mark (rest : List Char) : dropTimeMark? ('T' :: rest) = some rest := rfl
  have offset : takeOffset? ['Z'] = some (0, []) := rfl
  -- The date and the time of day are put together again.
  have placed : instantAt? t.date t.second t.wholeMillis.nano = some t.wholeMillis := by
    rw [instantAt?, dif_pos ⟨t.second_lt, t.wholeMillis.nano_lt⟩]
    have day : t.date.toDay = t.day := Date.toDay_ofDay t.day
    refine congrArg some (ext_secondNumber ?_ rfl)
    simp only [secondNumber, wholeMillis, day]
  -- The text is read from the left: each rewriting reads one part and passes on what is behind it.
  rw [toList_text, date.readTimestamp?_of_short short, mark, clock]
  dsimp only [Option.bind_eq_bind, Option.bind_some]
  rw [number hours]
  dsimp only [Option.bind_eq_bind, Option.bind_some]
  rw [colon, Option.bind_some, number minutes]
  dsimp only [Option.bind_eq_bind, Option.bind_some]
  rw [colon, Option.bind_some, number seconds]
  dsimp only [Option.bind_eq_bind, Option.bind_some]
  rw [takeFraction?_padded (by rw [nanosPerSecond]; omega)]
  dsimp only [Option.bind_eq_bind, Option.bind_some]
  rw [offset]
  dsimp only [Option.bind_eq_bind, Option.bind_some]
  rw [kept.timeOfDay?_eq]
  dsimp only [Option.bind_eq_bind, Option.bind_some]
  rw [placed]
  exact congrArg some (shiftSeconds_zero t.wholeMillis)

/-- With its offset a time of day is no time of day alone. -/
theorem readTime?_clock (t : Instant) (withSeconds : Bool) :
    readTime? withSeconds t.clock = none := by
  -- The time is read up to where its text goes on.
  obtain ⟨hours, minutes, seconds⟩ := t.clock_lt
  have colon (rest : List Char) : dropChar? ':' (':' :: rest) = some rest := rfl
  rw [readTime?, clock, takeLoose?_padded hours]
  dsimp only [Option.bind_eq_bind, Option.bind_some]
  rw [colon, Option.bind_some, takeLoose?_padded minutes]
  dsimp only [Option.bind_eq_bind, Option.bind_some]
  -- Without seconds the second colon is left over, and with them the mark of the offset.
  cases withSeconds
  · rfl
  · rw [if_pos rfl, colon, Option.bind_some, takeLoose?_padded seconds]
    dsimp only [Option.bind_eq_bind, Option.bind_some]
    rw [takeFraction?_padded (by rw [nanosPerSecond]; omega)]
    rfl

/-- The text of an instant is not empty and stands without blanks around it. -/
theorem trimChars_text (t : Instant) : trimChars t.text.toList = t.text.toList ∧
    t.text.toList.isEmpty = false := by
  -- The letter between date and time is there in any case.
  have filled : t.text.toList ≠ [] := by
    rw [toList_text]
    exact List.append_ne_nil_of_right_ne_nil _ (List.cons_ne_nil _ _)
  exact ⟨trimChars_solid filled fun c => isBlank_of_mem_text,
    List.isEmpty_eq_false_iff.2 filled⟩

/-- In the years of four digits the text of an instant reads back to the millisecond. -/
theorem Kept.readInstant?_text (kept : t.Kept) (short : 0 ≤ t.date.year ∧ t.date.year ≤ 9999) :
    readInstant? t.text = some t.wholeMillis := by
  -- A timestamp is tried first, and reads the text.
  obtain ⟨trimmed, filled⟩ := t.trimChars_text
  rw [readInstant?, trimmed, filled, kept.readTimestamp?_text short]
  rfl

/-- In the other years the text of an instant is not read. -/
theorem Kept.readInstant?_text_eq_none (kept : t.Kept)
    (long : ¬ (0 ≤ t.date.year ∧ t.date.year ≤ 9999)) : readInstant? t.text = none := by
  obtain ⟨trimmed, filled⟩ := t.trimChars_text
  have date : t.date.Kept := Date.kept_ofDay kept.day
  -- Behind the letter T the offset is left over, and without it the letter is no number.
  have dated (marked withSeconds : Bool) :
      readDateTime? marked withSeconds t.text.toList = none := by
    rw [toList_text, readDateTime?, date.takeDate?]
    dsimp only [Option.bind_eq_bind, Option.bind_some]
    cases marked
    · cases withSeconds <;> rfl
    · rw [if_pos rfl]
      show Option.bind (some t.clock) _ = none
      rw [Option.bind_some, readTime?_clock]
      rfl
  have alone : readDate? t.text.toList = none := by
    rw [toList_text, readDate?, date.takeDate?]
    rfl
  -- A long year starts with a sign, which no timestamp does.
  have timestamp : readTimestamp? t.text.toList = none := by
    rw [toList_text]
    exact Date.readTimestamp?_of_long long _
  rw [readInstant?, trimmed, filled, timestamp]
  simp only [dated, alone]
  rfl

end Instant

end CalcFields
