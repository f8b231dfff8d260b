/-! The functions of the formula language, each with its name and the arguments that it takes. -/

namespace CalcFields

/-- The argument counts that a function takes. -/
structure Arity where
  least : Nat
  /-- The greatest count, absent when there is none. -/
  greatest : Option Nat
deriving DecidableEq, Repr

namespace Arity

/-- Exactly so many arguments. -/
def exactly (n : Nat) : Arity := ⟨n, some n⟩

/-- At least so many arguments. -/
def atLeast (n : Nat) : Arity := ⟨n, none⟩

/-- A count is accepted when it lies within the bounds. -/
def accepts (arity : Arity) (count : Nat) : Bool :=
  arity.least ≤ count && arity.greatest.all (count ≤ ·)

/-- The counts in words. -/
def label (arity : Arity) : String :=
  match arity.greatest with
  | some greatest =>
    if greatest == arity.least then toString greatest
    else toString arity.least ++ " to " ++ toString greatest
  | none => "at least " ++ toString arity.least

end Arity

/-- Functions that choose which of their arguments to evaluate. -/
inductive Choice where
  | ifThen
  | caseWhen
  | coalesce
  | allOf
  | anyOf
deriving DecidableEq, Repr

/-- Functions that test and compare values. -/
inductive Test where
  | not
  | nullIf
  | isNull
  | oneOf
  | between
  | equal
  | notEqual
  | less
  | lessEqual
  | greater
  | greaterEqual
deriving DecidableEq, Repr

/-- Functions that calculate with numbers. -/
inductive Calculation where
  | round
  | abs
  | ceiling
  | floor
  | add
  | subtract
  | multiply
  | divide
  | modulo
  | negate
  | power
  | squareRoot
  | sign
  | greatest
  | least
deriving DecidableEq, Repr

/-- Functions that work on texts. -/
inductive Wording where
  | upper
  | lower
  | length
  | left
  | right
  | substr
  | substring
  | trim
  | trimFront
  | trimBack
  | replace
  | regexMatch
  | regexExtract
  | regexReplace
  | concat
  | concatWith
deriving DecidableEq, Repr

/-- Functions that work on dates and instants. -/
inductive Dating where
  | today
  | now
  | difference
  | differenceEndFirst
  | add
  | truncate
  | startOf
  | endOf
  | extract
  | makeDate
deriving DecidableEq, Repr

/-- Functions that convert a value to a named type. -/
inductive Conversion where
  | cast
  | tryCast
deriving DecidableEq, Repr

/-- A function of the formula language. -/
inductive Function where
  | choice (f : Choice)
  | test (f : Test)
  | calculation (f : Calculation)
  | wording (f : Wording)
  | dating (f : Dating)
  | conversion (f : Conversion)
deriving DecidableEq, Repr

namespace Function

/-- Every function with its name and its argument counts. -/
def table : List (Function × String × Arity) := [
  (.choice .ifThen, "IF", ⟨2, some 3⟩),
  (.choice .caseWhen, "CASE_WHEN", .atLeast 0),
  (.choice .coalesce, "COALESCE", .atLeast 0),
  (.choice .allOf, "AND", .atLeast 0),
  (.choice .anyOf, "OR", .atLeast 0),
  (.test .not, "NOT", .exactly 1),
  (.test .nullIf, "NULLIF", .exactly 2),
  (.test .isNull, "IS_NULL", .exactly 1),
  (.test .oneOf, "IN", .atLeast 1),
  (.test .between, "BETWEEN", .exactly 3),
  (.test .equal, "EQ", .exactly 2),
  (.test .notEqual, "NE", .exactly 2),
  (.test .less, "LT", .exactly 2),
  (.test .lessEqual, "LTE", .exactly 2),
  (.test .greater, "GT", .exactly 2),
  (.test .greaterEqual, "GTE", .exactly 2),
  (.calculation .round, "ROUND", ⟨1, some 2⟩),
  (.calculation .abs, "ABS", .exactly 1),
  (.calculation .ceiling, "CEIL", .exactly 1),
  (.calculation .floor, "FLOOR", .exactly 1),
  (.calculation .add, "ADD", .atLeast 0),
  (.calculation .subtract, "SUB", .atLeast 0),
  (.calculation .multiply, "MUL", .atLeast 0),
  (.calculation .divide, "DIV", .exactly 2),
  (.calculation .modulo, "MOD", .exactly 2),
  (.calculation .negate, "NEGATE", .exactly 1),
  (.calculation .power, "POWER", .exactly 2),
  (.calculation .squareRoot, "SQRT", .exactly 1),
  (.calculation .sign, "SIGN", .exactly 1),
  (.calculation .greatest, "GREATEST", .atLeast 0),
  (.calculation .least, "LEAST", .atLeast 0),
  (.wording .upper, "UPPER", .exactly 1),
  (.wording .lower, "LOWER", .exactly 1),
  (.wording .length, "LENGTH", .exactly 1),
  (.wording .left, "LEFT", .exactly 2),
  (.wording .right, "RIGHT", .exactly 2),
  (.wording .substr, "SUBSTR", ⟨2, some 3⟩),
  (.wording .substring, "SUBSTRING", ⟨2, some 3⟩),
  (.wording .trim, "TRIM", .exactly 1),
  (.wording .trimFront, "LTRIM", .exactly 1),
  (.wording .trimBack, "RTRIM", .exactly 1),
  (.wording .replace, "REPLACE", .exactly 3),
  (.wording .regexMatch, "REGEX_MATCH", .exactly 2),
  (.wording .regexExtract, "REGEX_EXTRACT", ⟨2, some 3⟩),
  (.wording .regexReplace, "REGEX_REPLACE", ⟨2, some 4⟩),
  (.wording .concat, "CONCAT", .atLeast 0),
  (.wording .concatWith, "CONCAT_WS", .atLeast 1),
  (.dating .today, "TODAY", .exactly 0),
  (.dating .now, "NOW", .exactly 0),
  (.dating .difference, "DATE_DIFF", .exactly 3),
  (.dating .differenceEndFirst, "DATEDIFF", .exactly 3),
  (.dating .add, "DATE_ADD", .exactly 3),
  (.dating .truncate, "DATE_TRUNC", .exactly 2),
  (.dating .startOf, "START_OF", .exactly 2),
  (.dating .endOf, "END_OF", .exactly 2),
  (.dating .extract, "EXTRACT", .exactly 2),
  (.dating .makeDate, "MAKE_DATE", .exactly 3),
  (.conversion .cast, "CAST", .exactly 2),
  (.conversion .tryCast, "TRY_CAST", .exactly 2)]

/-- The name and argument counts of a function. -/
def row (f : Function) : String × Arity :=
  (table.lookup f).getD ("", .exactly 0)

/-- The name of a function, in capitals. -/
def name (f : Function) : String := f.row.1

/-- The argument counts of a function. -/
def arity (f : Function) : Arity := f.row.2

/-- Small letters of the first 128 characters become capitals. -/
def capitals (word : String) : String :=
  String.ofList (word.toList.map Char.toUpper)

/-- A function is found by its name in any letter case. -/
def named? (word : String) : Option Function :=
  (table.find? fun entry => entry.2.1 == capitals word).map Prod.fst

/-- The names of all functions in order. -/
def names : List String :=
  (table.map fun entry => entry.2.1).mergeSort fun a b => decide (a ≤ b)

end Function

end CalcFields
