import CalcFields.Calendar.Reader
import CalcFields.Calendar.Writer
import CalcFields.Proofs.Calendar.Months
import CalcFields.Proofs.Formula.Reference
import CalcFields.Proofs.Json.Whole

/-!
Padded numbers are taken at their width, and so the text of a date reads back as the date in every
year that is kept, with the sign that years outside of 0 to 9999 have.
-/

namespace CalcFields

/-- A run of digits is taken as its number when it has the width, or ends by itself. -/
theorem takeNumber?_digits {least greatest : Nat} {digits rest : List Char}
    (plain : AllDigits digits) (enough : least ≤ digits.length) (few : digits.length ≤ greatest)
    (ends : digits.length = greatest ∨ ∀ c ∈ rest.head?, c.isDigit = false) :
    takeNumber? least greatest (digits ++ rest) = some (digitsValue digits, rest) := by
  -- What is left of the width starts with no digit, or nothing is left of it.
  have stops : (rest.take (greatest - digits.length)).takeWhile Char.isDigit = [] := by
    obtain full | ends := ends
    · rw [full, Nat.sub_self]
      rfl
    · cases rest with
      | nil => simp
      | cons c rest =>
        cases greatest - digits.length with
        | zero => rfl
        | succ more => simp [ends c rfl]
  -- So the digits in the cut are the given ones.
  have taken : ((digits ++ rest).take greatest).takeWhile Char.isDigit = digits := by
    rw [List.take_append, List.take_of_length_le few, List.takeWhile_append_of_pos plain, stops,
      List.append_nil]
  rw [takeNumber?, taken, if_neg enough.not_gt, List.drop_left]

/-- No number is taken where there is no digit. -/
theorem takeNumber?_eq_none {least greatest : Nat} {cs : List Char} (wanted : 0 < least)
    (other : ∀ c ∈ cs.head?, c.isDigit = false) : takeNumber? least greatest cs = none := by
  have stops : (cs.take greatest).takeWhile Char.isDigit = [] := by
    -- The digits are looked for in a cut of the text, which may be empty before the text is.
    cases cs with
    | nil => simp
    | cons c rest =>
      cases greatest with
      | zero => rfl
      | succ more => simp [other c rfl]
  rw [takeNumber?, stops]
  exact if_pos wanted

/-- A padded number is zeros and its digits. -/
theorem toList_padded (width n : Nat) : (padded width n).toList =
    zeros (width - (Nat.toDigits 10 n).length) ++ Nat.toDigits 10 n := by
  -- Padding puts zeros in front of the digits.
  rw [padded, String.toList_ofList]
  rfl

/-- A padded number consists of digits. -/
theorem allDigits_padded (width n : Nat) : AllDigits (padded width n).toList := by
  -- A zero is a digit like the ones it fills up.
  rw [toList_padded]
  intro c member
  obtain zero | digit := List.mem_append.1 member
  · rw [List.eq_of_mem_replicate zero]
    decide
  · exact allDigits_toDigits n c digit

/-- A padded number spells the number. -/
theorem digitsValue_padded (width n : Nat) : digitsValue (padded width n).toList = n := by
  -- Zeros in front add nothing to the value.
  rw [toList_padded]
  show Nat.ofDigitChars 10 _ 0 = n
  rw [Nat.ofDigitChars_append, ofDigitChars_zeros, Nat.ofDigitChars_ten_toDigits]

/-- A padded number is as wide as it is meant to be when it fits. -/
theorem length_padded {width n : Nat} (positive : 0 < width) (fits : n < 10 ^ width) :
    (padded width n).toList.length = width := by
  -- A number below the power has at most so many digits, and zeros fill up the rest.
  have short := (Nat.length_toDigits_le_iff (b := 10) (by decide) positive).2 fits
  rw [toList_padded, List.length_append, zeros, List.length_replicate]
  omega

/-- A padded number that fits is taken at its width. -/
theorem takeNumber?_padded {width n : Nat} (positive : 0 < width) (fits : n < 10 ^ width)
    {least : Nat} (enough : least ≤ width) (rest : List Char) :
    takeNumber? least width ((padded width n).toList ++ rest) = some (n, rest) := by
  -- The digits fill the width, so the reader stops behind them whatever follows.
  have long := length_padded positive fits
  rw [takeNumber?_digits (allDigits_padded width n) (by omega) long.le (.inl long),
    digitsValue_padded]

/-- A padded number starts with a digit. -/
theorem exists_padded_eq (width n : Nat) (rest : List Char) :
    ∃ c tail, (padded width n).toList ++ rest = c :: tail ∧ c.isDigit = true := by
  -- Even zero has a digit.
  have digits := allDigits_padded width n
  have filled : (padded width n).toList ≠ [] := by
    rw [toList_padded]
    exact List.append_ne_nil_of_right_ne_nil _ Nat.toDigits_ne_nil
  obtain ⟨c, tail, same⟩ := List.exists_cons_of_ne_nil filled
  rw [same] at digits ⊢
  exact ⟨c, tail ++ rest, rfl, digits c List.mem_cons_self⟩

/-- A padded number is not passed over. -/
theorem trimFront_padded (width n : Nat) (rest : List Char) :
    trimFront ((padded width n).toList ++ rest) = (padded width n).toList ++ rest := by
  -- A digit is no blank, so nothing is trimmed.
  obtain ⟨c, tail, same, digit⟩ := exists_padded_eq width n rest
  rw [same]
  refine trimFront_blanks (List.forall_mem_nil _) fun d head => ?_
  cases head
  exact isBlank_of_isDigit digit

/-- A padded number of two digits is taken where blanks may come before a number. -/
theorem takeLoose?_padded {n : Nat} (fits : n < 100) (rest : List Char) :
    takeLoose? 2 ((padded 2 n).toList ++ rest) = some (n, rest) := by
  -- The reader passes over blanks first, and there are none.
  rw [takeLoose?, trimFront_padded]
  exact takeNumber?_padded (by decide) fits (by decide) rest

/-- A year of four digits is written without a sign. -/
theorem yearText_of_short {year : Int} (short : 0 ≤ year ∧ year ≤ 9999) :
    yearText year = padded 4 year.toNat := by
  rw [yearText, if_pos (by simpa using short)]

/-- Another year is written with a sign. -/
theorem toList_yearText_of_long {year : Int} (long : ¬ (0 ≤ year ∧ year ≤ 9999)) :
    (yearText year).toList =
      (if year < 0 then '-' else '+') :: (padded 4 year.natAbs).toList := by
  -- Behind the sign the digits of the year are padded as those of any other.
  rw [yearText, if_neg (by simpa using long), String.toList_append]
  split <;> rfl

/-- A minus before a year of any number of digits makes it negative. -/
theorem takeYear?_minus (rest : List Char) : takeYear? ('-' :: rest) =
    (takeNumber? 1 rest.length rest).map fun taken => (-(taken.1 : Int), taken.2) :=
  rfl

/-- A plus before a year allows any number of digits. -/
theorem takeYear?_plus (rest : List Char) : takeYear? ('+' :: rest) =
    (takeNumber? 1 rest.length rest).map fun taken => ((taken.1 : Int), taken.2) :=
  rfl

/-- The text of a year before the mark behind it is taken as the year. -/
theorem takeYear?_yearText (year : Int) (rest : List Char) :
    takeYear? ((yearText year).toList ++ '-' :: rest) = some (year, '-' :: rest) := by
  by_cases short : 0 ≤ year ∧ year ≤ 9999
  · -- The first character is a digit, so that the reader sees no sign.
    obtain ⟨c, tail, same, digit⟩ := exists_padded_eq 4 year.toNat ('-' :: rest)
    have taken : takeNumber? 1 4 ((padded 4 year.toNat).toList ++ '-' :: rest) =
        some (year.toNat, '-' :: rest) := takeNumber?_padded (by decide) (by omega) (by decide) _
    rw [yearText_of_short short, takeYear?, trimFront_padded]
    split
    · rename_i signed
      cases same.symm.trans signed
      cases digit
    · rename_i signed
      cases same.symm.trans signed
      cases digit
    · rw [taken]
      refine congrArg some (Prod.ext ?_ rfl)
      exact Int.toNat_of_nonneg short.1
  · -- Behind a sign the digits go on up to the mark, however many they are.
    have filled : 1 ≤ (padded 4 year.natAbs).toList.length := by
      rw [toList_padded, List.length_append]
      exact Nat.le_add_left_of_le (Nat.length_toDigits_pos)
    have taken : takeNumber? 1 ((padded 4 year.natAbs).toList ++ '-' :: rest).length
        ((padded 4 year.natAbs).toList ++ '-' :: rest) = some (year.natAbs, '-' :: rest) := by
      rw [takeNumber?_digits (allDigits_padded 4 year.natAbs) filled (by simp)
        (.inr fun c head => by cases head; rfl), digitsValue_padded]
    rw [toList_yearText_of_long short, List.cons_append]
    split
    · rename_i negative
      have back : -(year.natAbs : Int) = year := by omega
      rw [takeYear?_minus, taken, Option.map_some, back]
    · rename_i positive
      have same : (year.natAbs : Int) = year := by omega
      rw [takeYear?_plus, taken, Option.map_some, same]

namespace Date

/-- The text of a date with what stands behind it, part by part. -/
theorem toList_text_append (date : Date) (rest : List Char) : date.text.toList ++ rest =
    (yearText date.year).toList ++
      '-' :: ((padded 2 date.month).toList ++ '-' :: ((padded 2 date.day).toList ++ rest)) := by
  -- The text is put together from its parts and the marks between them.
  have mark : "-".toList = ['-'] := rfl
  simp only [text, String.toList_append, mark, List.append_assoc, List.cons_append, List.nil_append]

variable {date : Date}

/-- The days of a month are written with two digits. -/
theorem Kept.day_lt (kept : date.Kept) : date.day < 100 := by
  -- No month has more than thirty-one days.
  have := kept.day_le
  have := monthLength_bounds date.year kept.one_le_month kept.month_le
  omega

/-- The text of a date is taken as the date, whatever stands behind it. -/
theorem Kept.takeDate? (kept : date.Kept) (rest : List Char) :
    CalcFields.takeDate? (date.text.toList ++ rest) = some (date, rest) := by
  -- The parts are read one after the other, and the date that they name exists.
  have month := kept.month_le
  have found : Date.exists? date.year date.month date.day = some date :=
    exists?_eq_some_iff.2 ⟨rfl, kept⟩
  rw [toList_text_append, CalcFields.takeDate?]
  simp only [takeYear?_yearText, takeLoose?_padded (by omega : date.month < 100),
    takeLoose?_padded kept.day_lt, dropChar?, found, Option.bind_eq_bind, Option.bind_some,
    beq_self_eq_true, if_true, Option.pure_def]

/-- A year of four digits is far from the bounds of the kept years. -/
theorem Kept.toDay_bounds (kept : date.Kept) (short : 0 ≤ date.year ∧ date.year ≤ 9999) :
    -719528 ≤ date.toDay ∧ date.toDay ≤ 2932996 := by
  have month := kept.month_le
  have day := kept.day_lt
  have one := kept.one_le_day
  -- The month bounds the day from both sides, and the months are bounded by the first and the last
  -- of the four digits.
  have first := firstOfMonth_strictMono.monotone (by rw [monthNumber]; omega : 0 ≤ date.monthNumber)
  have last := firstOfMonth_strictMono.monotone
    (by rw [monthNumber]; omega : date.monthNumber ≤ 119999)
  have start : firstOfMonth 0 = -719528 := by decide
  have stop : firstOfMonth 119999 = 2932866 := by decide
  rw [kept.toDay_eq]
  omega

/-- There are no blanks in the text of a date. -/
theorem isBlank_of_mem_text {date : Date} {c : Char} (member : c ∈ date.text.toList) :
    isBlank c = false := by
  -- A character of the text is a digit, a mark or the sign of a year.
  have digit {width n : Nat} (member : c ∈ (padded width n).toList) : isBlank c = false :=
    isBlank_of_isDigit (allDigits_padded width n c member)
  have whole := toList_text_append date []
  rw [List.append_nil, List.append_nil] at whole
  rw [whole] at member
  simp only [List.mem_append, List.mem_cons] at member
  obtain year | rfl | month | rfl | day := member
  · by_cases short : 0 ≤ date.year ∧ date.year ≤ 9999
    · rw [yearText_of_short short] at year
      exact digit year
    · rw [toList_yearText_of_long short] at year
      obtain rfl | year := List.mem_cons.1 year
      · split <;> decide
      · exact digit year
  · decide
  · exact digit month
  · decide
  · exact digit day

/-- The text of a date is not empty. -/
theorem text_ne_nil (date : Date) : date.text.toList ≠ [] := by
  -- There is at least a mark in it.
  have whole := toList_text_append date []
  rw [List.append_nil] at whole
  rw [whole]
  exact List.append_ne_nil_of_right_ne_nil _ (List.cons_ne_nil _ _)

/-- The text of a date has no time behind it. -/
theorem Kept.readDateTime?_eq_none (kept : date.Kept) (marked withSeconds : Bool) :
    readDateTime? marked withSeconds date.text.toList = none := by
  -- Behind the date nothing is left for a time.
  have taken := kept.takeDate? []
  rw [List.append_nil] at taken
  rw [readDateTime?, taken]
  cases marked <;> cases withSeconds <;> rfl

/-- No timestamp starts with a year that has a sign. -/
theorem readTimestamp?_of_long (long : ¬ (0 ≤ date.year ∧ date.year ≤ 9999)) (rest : List Char) :
    readTimestamp? (date.text.toList ++ rest) = none := by
  -- The sign in front is no digit, where a timestamp has the first of four.
  have signed : takeNumber? 4 4 (date.text.toList ++ rest) = none := by
    rw [toList_text_append, toList_yearText_of_long long]
    refine takeNumber?_eq_none (by decide) fun c head => ?_
    cases head
    split <;> rfl
  rw [readTimestamp?, signed]
  rfl

/-- A timestamp of a year of four digits is taken up to its date. -/
theorem Kept.readTimestamp?_of_short (kept : date.Kept) (short : 0 ≤ date.year ∧ date.year ≤ 9999)
    (rest : List Char) : readTimestamp? (date.text.toList ++ rest) = do
      let (hour, cs) ← takeNumber? 2 2 (← dropTimeMark? rest)
      let (minute, cs) ← takeNumber? 2 2 (← dropChar? ':' cs)
      let (second, cs) ← takeNumber? 2 2 (← dropChar? ':' cs)
      let (nano, cs) ← takeFraction? cs
      let (offset, cs) ← takeOffset? cs
      if !cs.isEmpty then none
      else
        let (inDay, fraction) ← timeOfDay? hour minute second nano
        let here ← instantAt? date inDay fraction
        return here.shiftSeconds (-offset) := by
  have year (rest : List Char) : takeNumber? 4 4 ((padded 4 date.year.toNat).toList ++ rest) =
      some (date.year.toNat, rest) := takeNumber?_padded (by decide) (by omega) le_rfl rest
  -- Month and day are padded to two digits.
  have month (rest : List Char) : takeNumber? 2 2 ((padded 2 date.month).toList ++ rest) =
      some (date.month, rest) :=
    takeNumber?_padded (by decide) (by have := kept.month_le; omega) le_rfl rest
  have day : takeNumber? 2 2 ((padded 2 date.day).toList ++ rest) = some (date.day, rest) :=
    takeNumber?_padded (by decide) kept.day_lt le_rfl rest
  have mark (rest : List Char) : dropChar? '-' ('-' :: rest) = some rest := rfl
  have found : Date.exists? (date.year.toNat : Int) date.month date.day = some date := by
    rw [Int.toNat_of_nonneg short.1]
    exact exists?_eq_some_iff.2 ⟨rfl, kept⟩
  -- Each part is taken at its width, and leaves the mark before the next one.
  rw [toList_text_append, yearText_of_short short, readTimestamp?, year]
  dsimp only [Option.bind_eq_bind, Option.bind_some]
  rw [mark, Option.bind_some, month]
  dsimp only [Option.bind_eq_bind, Option.bind_some]
  rw [mark, Option.bind_some, day]
  dsimp only [Option.bind_eq_bind, Option.bind_some]
  rw [found]
  rfl

/-- A timestamp goes on with a mark behind the date. -/
theorem Kept.readTimestamp?_eq_none (kept : date.Kept) {rest : List Char}
    (unmarked : dropTimeMark? rest = none) : readTimestamp? (date.text.toList ++ rest) = none := by
  -- A long year is refused at once, and behind a short one the mark is missing.
  by_cases short : 0 ≤ date.year ∧ date.year ≤ 9999
  · rw [kept.readTimestamp?_of_short short, unmarked]
    rfl
  · exact readTimestamp?_of_long short rest

/-- The text of a date reads back as the start of its day. -/
theorem Kept.readInstant?_text (kept : date.Kept) :
    readInstant? date.text = some (.midnight date.toDay) := by
  have taken := kept.takeDate? []
  rw [List.append_nil] at taken
  have trimmed := trimChars_solid date.text_ne_nil fun c => isBlank_of_mem_text
  have filled : date.text.toList.isEmpty = false := List.isEmpty_eq_false_iff.2 date.text_ne_nil
  -- A timestamp and a date with a time both go on behind the date, and there is nothing.
  have timestamp := kept.readTimestamp?_eq_none (show dropTimeMark? [] = none from rfl)
  rw [List.append_nil] at timestamp
  rw [readInstant?]
  simp only [trimmed, filled, timestamp, kept.readDateTime?_eq_none, readDate?, taken]
  rfl

end Date

end CalcFields
