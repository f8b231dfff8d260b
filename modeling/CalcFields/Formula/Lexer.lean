import CalcFields.Decimal.Numeral
import CalcFields.Formula.Error

/-! The lexer cuts a formula into tokens, the longest one first, with blanks between them. -/

namespace CalcFields

/-- The blanks between tokens are those of the first 128 characters, without the vertical tab. -/
def isGap (c : Char) : Bool :=
  c == ' ' || c == '\t' || c == '\n' || c == '\x0c' || c == '\r'

/-- Names hold letters, digits and underscores of the first 128 characters. -/
def isNameChar (c : Char) : Bool :=
  c.isAlphanum || c == '_'

/-- A name has at least one character. -/
def isName (cs : List Char) : Bool :=
  !cs.isEmpty && cs.all isNameChar

/-- The number of bytes of a text. -/
def byteCount (cs : List Char) : Nat :=
  cs.foldl (fun count c => count + c.utf8Size) 0

/-- What one step of the lexer finds: a token, the characters that spell it and those after it. -/
structure Lexeme where
  token : Token
  spelling : List Char
  rest : List Char

/-- Splits before the first pair of closing braces, which is dropped. -/
def splitAtBraces : List Char → Option (List Char × List Char)
  | '}' :: '}' :: rest => some ([], rest)
  | c :: rest => (splitAtBraces rest).map fun (inner, after) => (c :: inner, after)
  | [] => none

/-- A reference is a name, or two names with a dot between them. -/
def referenceToken? (inner : List Char) : Option Token :=
  match inner.span (· != '.') with
  | (whole, []) => if isName whole then some (.field (String.ofList whole)) else none
  | (collection, _ :: field) =>
    if isName collection && isName field then
      some (.foreign (String.ofList collection) (String.ofList field))
    else none

/-- The contents of a string up to its closing quote: the text, its spelling and what follows. -/
def readContents : List Char → Option (List Char × List Char × List Char)
  | [] => none
  | '"' :: rest => some ([], ['"'], rest)
  | '\\' :: c :: rest =>
    let plain :=
      match c with
      | 'n' => '\n'
      | 't' => '\t'
      | 'r' => '\r'
      | other => other
    (readContents rest).map fun (text, spelling, after) =>
      (plain :: text, '\\' :: c :: spelling, after)
  | ['\\'] => none
  | c :: rest =>
    (readContents rest).map fun (text, spelling, after) => (c :: text, c :: spelling, after)

/-- An exponent is taken only with a digit after its mark and sign. -/
def spanExponent (cs : List Char) : List Char × List Char :=
  match cs with
  | mark :: rest =>
    if mark == 'e' || mark == 'E' then
      let (sign, unsigned) :=
        match rest with
        | '+' :: tail => (['+'], tail)
        | '-' :: tail => (['-'], tail)
        | _ => ([], rest)
      let (digits, after) := takeDigits unsigned
      if digits.isEmpty then ([], cs) else (mark :: sign ++ digits, after)
    else ([], cs)
  | [] => ([], [])

/-- The longest numeral at the front: digits, a point with more digits, an exponent. -/
def spanNumeral (cs : List Char) : List Char × List Char :=
  let (whole, afterWhole) := takeDigits cs
  let (fraction, afterFraction) :=
    match afterWhole with
    | '.' :: tail =>
      let (digits, after) := takeDigits tail
      ('.' :: digits, after)
    | _ => ([], afterWhole)
  let (exponent, rest) := spanExponent afterFraction
  (whole ++ fraction ++ exponent, rest)

/-- A numeral starts with a digit, or with a point before a digit. -/
def startsNumeral (c : Char) (rest : List Char) : Bool :=
  c.isDigit || (c == '.' && (rest.head?.any Char.isDigit))

/-- The operators of two characters. -/
def doubleOperator? : Char → Char → Option Token
  | '<', '=' => some .lessEqual
  | '>', '=' => some .greaterEqual
  | '<', '>' => some .notEqual
  | '!', '=' => some .notEqual
  | '=', '=' => some .equal
  | _, _ => none

/-- The operators and marks of one character. -/
def singleOperator? : Char → Option Token
  | '+' => some .plus
  | '-' => some .minus
  | '*' => some .star
  | '/' => some .slash
  | '%' => some .percent
  | '=' => some .equal
  | '<' => some .less
  | '>' => some .greater
  | '!' => some .bang
  | '(' => some .opening
  | ')' => some .closing
  | ',' => some .comma
  | _ => none

/-- The operator at the front, two characters before one. -/
def operatorLexeme (c : Char) (rest : List Char) : Except SyntaxError Lexeme :=
  let single : Except SyntaxError Lexeme :=
    match singleOperator? c with
    | some token => .ok ⟨token, [c], rest⟩
    | none => .error (.unexpectedChar c)
  match rest with
  | d :: after =>
    match doubleOperator? c d with
    | some token => .ok ⟨token, [c, d], after⟩
    | none => single
  | [] => single

/-- The reference at the front, after its opening braces. -/
def referenceLexeme (inside : List Char) : Except SyntaxError Lexeme :=
  match splitAtBraces inside with
  | none => .error (.invalidFieldRef (String.ofList ('{' :: '{' :: inside)))
  | some (inner, after) =>
    match referenceToken? (trimChars inner) with
    | some token => .ok ⟨token, '{' :: '{' :: inner ++ ['}', '}'], after⟩
    | none => .error (.invalidFieldRef (String.ofList (trimChars inner)))

/-- The string at the front, after its opening quote. -/
def stringLexeme (inside : List Char) : Except SyntaxError Lexeme :=
  match readContents inside with
  | some (text, spelling, after) => .ok ⟨.string (String.ofList text), '"' :: spelling, after⟩
  | none => .error .unterminatedString

/-- The numeral at the front. -/
def numeralLexeme (cs : List Char) : Except SyntaxError Lexeme :=
  let (spelling, after) := spanNumeral cs
  match Numeral.read? spelling with
  | some numeral => .ok ⟨.number numeral.toFloat, spelling, after⟩
  | none => .error (.invalidNumber (String.ofList spelling))

/-- The token at the front of a text that starts with no blank. -/
def lexeme (c : Char) (rest : List Char) : Except SyntaxError Lexeme :=
  match c, rest with
  | '{', '{' :: inside => referenceLexeme inside
  | '"', inside => stringLexeme inside
  | _, _ =>
    if startsNumeral c rest then numeralLexeme (c :: rest)
    else if c.isAlpha || c == '_' then
      let (tail, after) := rest.span isNameChar
      .ok ⟨.word (String.ofList (c :: tail)), c :: tail, after⟩
    else operatorLexeme c rest

/-- The tokens of a text from a byte position on, where the fuel bounds their number. -/
def tokensFrom (position : Nat) : Nat → List Char → Except Fault (List Placed)
  | _, [] => .ok []
  | 0, _ :: _ => .ok []
  | fuel + 1, c :: rest =>
    if isGap c then tokensFrom (position + 1) fuel rest
    else
      match lexeme c rest with
      | .error cause => .error ⟨position, cause⟩
      | .ok found =>
        match tokensFrom (position + byteCount found.spelling) fuel found.rest with
        | .error fault => .error fault
        | .ok tokens => .ok (⟨found.token, position⟩ :: tokens)

/-- The tokens of a formula. -/
def tokenize (formula : String) : Except Fault (List Placed) :=
  let cs := formula.toList
  tokensFrom 0 cs.length cs

end CalcFields
