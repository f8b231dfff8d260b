import CalcFields.Formula.Lexer

/-!
The spellings of tokens, stated without the lexer. A token may have several spellings, one of which
is canonical unless the token is a number, which is given by its digits.
-/

namespace CalcFields

/-- A part of a numeral holds digits only. -/
def AllDigits (cs : List Char) : Prop :=
  ∀ c ∈ cs, c.isDigit = true

/-- The fraction of a numeral is a point and the digits behind it, of which there may be none. -/
inductive SpellsFraction : List Char → Prop where
  | absent : SpellsFraction []
  | present {digits : List Char} (plain : AllDigits digits) : SpellsFraction ('.' :: digits)

/-- The exponent of a numeral is a mark, perhaps a sign, and one digit or more. -/
inductive SpellsExponent : List Char → Prop where
  | absent : SpellsExponent []
  | present {mark : Char} {sign digits : List Char} (marked : mark = 'e' ∨ mark = 'E')
      (signed : sign = [] ∨ sign = ['+'] ∨ sign = ['-']) (nonempty : digits ≠ [])
      (plain : AllDigits digits) : SpellsExponent (mark :: sign ++ digits)

/-- A numeral is digits, a fraction and an exponent, with a digit in front of the point or right
behind it. -/
inductive SpellsNumeral : List Char → Prop where
  | parts {whole fraction exponent : List Char} (plain : AllDigits whole)
      (pointed : SpellsFraction fraction) (raised : SpellsExponent exponent)
      (digit : ∃ c ∈ whole ++ fraction, c.isDigit = true) :
      SpellsNumeral (whole ++ fraction ++ exponent)

/-- The number that the characters of a numeral spell. -/
def numeralValue (cs : List Char) : Float :=
  ((Numeral.read? cs).map Numeral.toFloat).getD 0

/-- What a character stands for behind a backslash. -/
def unescaped : Char → Char
  | 'n' => '\n'
  | 't' => '\t'
  | 'r' => '\r'
  | other => other

/-- The characters between the quotes of a string spell its contents: a backslash with the character
behind it spells one character, and any other character but a quote spells itself. -/
inductive SpellsContents : List Char → List Char → Prop where
  | nil : SpellsContents [] []
  | plain {c : Char} {cs text : List Char} (noQuote : c ≠ '"') (noEscape : c ≠ '\\')
      (more : SpellsContents cs text) : SpellsContents (c :: cs) (c :: text)
  | escape {c : Char} {cs text : List Char} (more : SpellsContents cs text) :
      SpellsContents ('\\' :: c :: cs) (unescaped c :: text)

/-- A word starts with a letter or an underscore and goes on with name characters. -/
structure IsWord (first : Char) (rest : List Char) : Prop where
  start : (first.isAlpha || first == '_') = true
  rest : ∀ c ∈ rest, isNameChar c = true

/-- The symbols of the operators and marks, one for each of them. -/
def canonicalSymbols : List (List Char × Token) := [
  (['+'], .plus), (['-'], .minus), (['*'], .star), (['/'], .slash), (['%'], .percent),
  (['='], .equal), (['<', '>'], .notEqual), (['<'], .less), (['<', '='], .lessEqual),
  (['>'], .greater), (['>', '='], .greaterEqual), (['!'], .bang), (['('], .opening),
  ([')'], .closing), ([','], .comma)]

/-- All symbols of the operators and marks. -/
def symbols : List (List Char × Token) :=
  canonicalSymbols ++ [(['=', '='], .equal), (['!', '='], .notEqual)]

/-- A reference is a name, or two names with a dot between them. -/
inductive Refers : List Char → Token → Prop where
  | field {name : List Char} (named : isName name = true) :
      Refers name (.field (String.ofList name))
  | foreign {collection name : List Char} (collected : isName collection = true)
      (named : isName name = true) :
      Refers (collection ++ '.' :: name) (.foreign (String.ofList collection) (String.ofList name))

/-- The characters that spell a token. A reference stands in double braces with blanks around it. -/
inductive Spells : List Char → Token → Prop where
  | reference {front body back : List Char} {token : Token}
      (frontBlank : ∀ c ∈ front, isBlank c = true) (backBlank : ∀ c ∈ back, isBlank c = true)
      (refers : Refers body token) :
      Spells ('{' :: '{' :: (front ++ body ++ back) ++ ['}', '}']) token
  | string {contents text : List Char} (spelled : SpellsContents contents text) :
      Spells ('"' :: contents ++ ['"']) (.string (String.ofList text))
  | number {cs : List Char} (spelled : SpellsNumeral cs) : Spells cs (.number (numeralValue cs))
  | word {first : Char} {rest : List Char} (spelled : IsWord first rest) :
      Spells (first :: rest) (.word (String.ofList (first :: rest)))
  | symbol {cs : List Char} {token : Token} (listed : (cs, token) ∈ symbols) : Spells cs token

end CalcFields
