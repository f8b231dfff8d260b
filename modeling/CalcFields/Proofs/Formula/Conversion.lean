import CalcFields.Formula.Conversion
import CalcFields.Proofs.Calendar.Timestamp
import CalcFields.Proofs.Decimal.Number
import CalcFields.Proofs.Decimal.Truncation
import CalcFields.Proofs.Formula.Provenance

/-!
What a cast gives is given again by the same cast. The one exception is the text of an instant in a
year that has a sign, which is no timestamp, although the text of a date in such a year is read.
-/

namespace CalcFields

/-- The year of an instant is written with a sign. -/
def Instant.hasSignedYear (t : Instant) : Bool :=
  !(0 ≤ t.date.year && t.date.year ≤ 9999)

/-- A text that is read as a number is one. -/
theorem isNaN_of_parseNumber? {text : String} {x : Float} (read : parseNumber? text = some x) :
    x.isNaN = false := by
  rw [parseNumber?] at read
  -- The words of infinity are read before numerals are.
  split at read
  · cases read
    decide
  split at read
  · cases read
    decide
  · obtain ⟨n, -, rfl⟩ := Option.map_eq_some_iff.1 read
    exact n.isNaN_toFloat

namespace Value

variable {v w : Value}

/-- What a value reads as is a number. -/
theorem isNaN_of_toNumber? {x : Float} (read : v.toNumber? = some x) : x.isNaN = false := by
  cases v with
  | bool b =>
    cases read
    cases b <;> decide
  -- A number that is none is not read as one.
  | number y =>
    rw [toNumber?] at read
    split at read
    · cases read
    · rename_i number
      cases read
      exact Bool.eq_false_iff.2 number
  | string s => exact isNaN_of_parseNumber? read
  | _ => cases read

/-- A number reads as itself. -/
theorem toNumber?_number {x : Float} (counts : x.isNaN = false) :
    (number x).toNumber? = some x := by
  rw [toNumber?, counts]
  rfl

/-- The instant of a value lies in a kept year, and in a leap second only at the end of a minute. -/
theorem kept_of_instant? {t : Instant} (found : v.instant? = some t) : t.Kept := by
  -- An instant is made of milliseconds or read from a text, and both stay within the years.
  cases v with
  | number x =>
    rw [instant?] at found
    split at found
    · exact Instant.kept_of_ofMillis? found
    · cases found
  | string s => exact Instant.kept_of_readInstant? found
  | _ => cases found

/-- A value is cast to an instant of a year that has a sign. -/
def castsSigned (v : Value) (kind : CastKind) : Bool :=
  kind == .datetime && v.instant?.any (·.hasSignedYear)

/-- The form of a value under a type has itself as form, unless it is the text of an instant in a
year that has a sign. -/
theorem convert?_again {kind : CastKind} (converted : v.convert? kind = some w) :
    w.convert? kind = if v.castsSigned kind then none else some w := by
  -- A conversion gives a value of the kind, which reads as it was given.
  cases kind with
  | text =>
    cases converted
    rfl
  -- What is truncated is whole already.
  | integer =>
    obtain ⟨x, read, rfl⟩ := Option.map_eq_some_iff.1 converted
    show ((number (truncate x)).toNumber?.map fun y => number (truncate y)) = _
    rw [toNumber?_number (isNaN_truncate (isNaN_of_toNumber? read)), Option.map_some,
      truncate_truncate]
    rfl
  | decimal =>
    obtain ⟨x, read, rfl⟩ := Option.map_eq_some_iff.1 converted
    show ((number x).toNumber?.map number) = _
    rw [toNumber?_number (isNaN_of_toNumber? read)]
    rfl
  | boolean =>
    obtain ⟨b, truth, rfl⟩ := Option.map_eq_some_iff.1 converted
    rfl
  | date =>
    obtain ⟨t, found, rfl⟩ := Option.map_eq_some_iff.1 converted
    -- The text reads back as the midnight of the date, which has the same date.
    have date : t.date.Kept := Date.kept_ofDay (kept_of_instant? found).day
    have same : (Instant.midnight t.date.toDay).date = t.date := date.ofDay_toDay
    have read : (string t.dateText).instant? = some (.midnight t.date.toDay) :=
      date.readInstant?_text
    show ((string t.dateText).instant?.map fun u => string u.dateText) = _
    rw [read, Option.map_some, Instant.dateText, same]
    rfl
  | datetime =>
    obtain ⟨t, found, rfl⟩ := Option.map_eq_some_iff.1 converted
    have kept := kept_of_instant? found
    have signed : v.castsSigned .datetime = t.hasSignedYear := by
      rw [castsSigned, found]
      rfl
    show ((string t.text).instant?.map fun u => string u.text) = _
    rw [signed, Instant.hasSignedYear]
    by_cases short : 0 ≤ t.date.year ∧ t.date.year ≤ 9999
    · -- The text has no more than the milliseconds that are read back.
      have read : (string t.text).instant? = some t.wholeMillis := kept.readInstant?_text short
      rw [read, Option.map_some, t.text_wholeMillis, decide_eq_true short.1,
        decide_eq_true short.2]
      rfl
    · -- A year with a sign is not read again.
      have unread : (string t.text).instant? = none := kept.readInstant?_text_eq_none short
      have sign : (!(decide (0 ≤ t.date.year) && decide (t.date.year ≤ 9999))) = true := by
        rw [← Bool.decide_and, decide_eq_false short]
        rfl
      rw [unread, sign]
      rfl

/-- No form of a value under a type is null. -/
theorem isNull_of_convert? {kind : CastKind} (converted : v.convert? kind = some w) :
    w.isNull = false := by
  -- Every kind gives a value of its own.
  cases kind with
  | text =>
    cases converted
    rfl
  | _ =>
    obtain ⟨_, _, rfl⟩ := Option.map_eq_some_iff.1 converted
    rfl

/-- A value is cast to an instant of a year that has a sign by a name of the type. -/
def castsSignedTo (v : Value) (target : String) : Bool :=
  (CastKind.named? (lowercase (trim target))).any v.castsSigned

/-- What a strict cast gives is given again, or is the text of an instant that fails to be read. -/
theorem cast_again {target : String} (given : v.cast target = .ok w) : w.cast target =
    if v.castsSignedTo target then .error (.cast .datetime w) else .ok w := by
  obtain ⟨null, rfl⟩ | ⟨-, kind, named, converted⟩ := cast_eq_ok_iff.1 given
  · -- Null denotes no instant.
    have absent : v.instant? = none := by
      cases v with
      | null => rfl
      | _ => cases null
    have unsigned : v.castsSignedTo target = false := by
      rw [castsSignedTo]
      cases CastKind.named? (lowercase (trim target)) with
      | none => rfl
      | some kind => rw [Option.any_some, castsSigned, absent, Option.any_none, Bool.and_false]
    rw [unsigned]
    rfl
  · -- A value that is not null is converted, once and then again.
    have again := convert?_again converted
    have filled := isNull_of_convert? converted
    rw [castsSignedTo, named, Option.any_some]
    cases signed : v.castsSigned kind with
    | false =>
      rw [signed] at again
      exact cast_eq_ok_iff.2 (.inr ⟨filled, kind, named, again⟩)
    | true =>
      have instant : kind = .datetime := by
        rw [castsSigned, Bool.and_eq_true, beq_iff_eq] at signed
        exact signed.1
      rw [signed, if_pos rfl, instant] at again
      rw [cast, castWith, filled, named, instant]
      simp only [again]
      rfl

/-- A value that denotes an instant is cast to its text. -/
theorem cast_datetime {t : Instant} (found : v.instant? = some t) :
    v.cast "datetime" = .ok (string t.text) := by
  have filled : v.isNull = false := by
    cases v with
    | null => cases found
    | _ => rfl
  -- The name of the kind is its own spelling.
  have named : CastKind.named? (lowercase (trim "datetime")) = some .datetime := by decide
  refine cast_eq_ok_iff.2 (.inr ⟨filled, .datetime, named, ?_⟩)
  rw [convert?, found]
  rfl

end Value

namespace Conversion

/-- What a strict cast gives it gives again, except for the text of an instant in a year that has a
sign, which it fails on. The other cast always gives a value: what the strict one gives, and null
where that one fails. -/
theorem evaluate?_again (v target : Value) :
    (∀ w, evaluate? cast [v, target] = some (.ok w) → evaluate? cast [w, target] =
      some (if v.castsSignedTo target.text then .error (.cast .datetime w) else .ok w)) ∧
    ∃ outcome, evaluate? cast [v, target] = some outcome ∧
      evaluate? tryCast [v, target] = some (.ok (outcome.toOption.getD .null)) := by
  refine ⟨fun w given => ?_, v.cast target.text, rfl, ?_⟩
  · exact congrArg some (Value.cast_again (Option.some.inj given))
  · -- The forgiving form gives null wherever the strict one fails.
    rw [evaluate?, Value.tryCast_eq]
    cases v.cast target.text <;> rfl

/-- A date is cast to its midnight by either cast, and that to itself. -/
theorem evaluate?_again_midnight :
    evaluate? cast [.string "2025-10-10", .string "datetime"] =
        some (.ok (.string "2025-10-10T00:00:00.000Z")) ∧
      evaluate? cast [.string "2025-10-10T00:00:00.000Z", .string "datetime"] =
        some (.ok (.string "2025-10-10T00:00:00.000Z")) ∧
      evaluate? tryCast [.string "2025-10-10", .string "datetime"] =
        some (.ok (.string "2025-10-10T00:00:00.000Z")) := by
  have found : (Value.string "2025-10-10").instant? = some (.midnight 20371) := by decide
  have text : (Instant.midnight 20371).text = "2025-10-10T00:00:00.000Z" := by decide
  have given : evaluate? cast [.string "2025-10-10", .string "datetime"] =
      some (.ok (.string "2025-10-10T00:00:00.000Z")) :=
    congrArg some (text ▸ Value.cast_datetime found)
  -- The year has four digits and no sign.
  have unsigned : (Value.string "2025-10-10").castsSignedTo "datetime" = false := by
    decide
  obtain ⟨twice, outcome, strict, total⟩ :=
    evaluate?_again (.string "2025-10-10") (.string "datetime")
  have again := twice _ given
  refine ⟨given, ?_, ?_⟩
  · rw [Value.text, unsigned] at again
    exact again
  · cases given.symm.trans strict
    exact total

/-- The midnight of the first day of the year 10000 is given, and not read again. -/
theorem evaluate?_signedYear : ¬ ∀ v target w : Value,
    evaluate? cast [v, target] = some (.ok w) → evaluate? cast [w, target] = some (.ok w) := by
  have found : (Value.string "+10000-01-01").instant? = some (.midnight 2932897) := by
    decide
  have signed : (Value.string "+10000-01-01").castsSignedTo "datetime" = true := by
    decide
  have given := Value.cast_datetime found
  -- The text has a sign, with which it is not read.
  have failed := Value.cast_again given
  rw [signed, if_pos rfl] at failed
  intro all
  have again := Option.some.inj
    (all (.string "+10000-01-01") (.string "datetime") _ (congrArg some given))
  cases failed.symm.trans again

end Conversion

end CalcFields
