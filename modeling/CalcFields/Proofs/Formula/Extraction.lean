import CalcFields.Formula.Compiled
import CalcFields.Proofs.Formula.Grammar
import CalcFields.Proofs.Formula.Tokenizing

/-!
The reader of the raw text finds the references that the lexer finds, and those that the contents of
strings spell. Without the latter, what it extracts from a text is what the tree of the text names.
-/

namespace CalcFields

/-- The references that the reader of the raw text finds. -/
def references (cs : List Char) : List (List Char) :=
  referencesIn cs.length cs

/-- What is read behind the opening braces is no part of the rest. -/
theorem length_of_readReference? {inside name after : List Char}
    (found : readReference? inside = some (name, after)) : after.length < inside.length := by
  -- The closing braces at least have been read.
  obtain ⟨front, back, token, rfl, -⟩ := readReference?_eq_some_iff.1 found
  simp only [List.length_append, List.length_cons]
  omega

/-- More fuel than characters makes no difference. -/
theorem referencesIn_congr {fuel other : Nat} {cs : List Char} (enough : cs.length ≤ fuel)
    (also : cs.length ≤ other) : referencesIn fuel cs = referencesIn other cs := by
  -- Each step takes one off the fuel and one character or more off the text.
  fun_induction referencesIn fuel cs generalizing other with
  | case1 cs =>
    obtain rfl : cs = [] := by simpa using enough
    cases other <;> rfl
  | case2 => cases other <;> rfl
  | case3 fuel inside name after found ih =>
    obtain ⟨other, rfl⟩ : ∃ n, other = n + 1 := Nat.exists_eq_add_one.2 (by simp at also; omega)
    have shorter := length_of_readReference? found
    simp only [List.length_cons] at enough also
    rw [referencesIn, found]
    exact congrArg (name :: ·) (ih (by omega) (by omega))
  | case4 fuel inside missing ih =>
    obtain ⟨other, rfl⟩ : ∃ n, other = n + 1 := Nat.exists_eq_add_one.2 (by simp at also; omega)
    simp only [List.length_cons] at enough also
    rw [referencesIn, missing]
    exact ih (by simp; omega) (by simp; omega)
  | case5 fuel c rest unbraced ih =>
    obtain ⟨other, rfl⟩ : ∃ n, other = n + 1 := Nat.exists_eq_add_one.2 (by simp at also; omega)
    simp only [List.length_cons] at enough also
    rw [referencesIn]
    · exact ih (by omega) (by omega)
    · exact unbraced

/-- With enough fuel all references are found. -/
theorem referencesIn_eq {fuel : Nat} {cs : List Char} (enough : cs.length ≤ fuel) :
    referencesIn fuel cs = references cs :=
  referencesIn_congr enough (Nat.le_refl _)

/-- A reference is found in front of those in the rest. -/
theorem references_found {inside name after : List Char}
    (found : readReference? inside = some (name, after)) :
    references ('{' :: '{' :: inside) = name :: references after := by
  -- What is left behind a reference is shorter, so the budget suffices for it.
  have shorter := length_of_readReference? found
  rw [references, List.length_cons, referencesIn, found]
  exact congrArg (name :: ·) (referencesIn_eq (by simp; omega))

/-- Braces that open no reference are left behind one at a time. -/
theorem references_missing {inside : List Char} (missing : readReference? inside = none) :
    references ('{' :: '{' :: inside) = references ('{' :: inside) := by
  -- Braces without a reference behind them are passed over one by one.
  rw [references, List.length_cons, referencesIn, missing]
  exact referencesIn_eq (Nat.le_refl _)

/-- A character that is not one of two opening braces is left behind. -/
theorem references_plain {c : Char} {rest : List Char}
    (unbraced : ∀ inside, c = '{' → rest = '{' :: inside → False) :
    references (c :: rest) = references rest := by
  -- A character that opens no reference is passed over.
  rw [references, List.length_cons, referencesIn]
  · rfl
  · exact unbraced

/-- There is no reference without an opening brace. -/
theorem references_append_of_not_mem {front : List Char} (unopened : '{' ∉ front)
    (rest : List Char) : references (front ++ rest) = references rest := by
  -- Induction on the text in front.
  induction front with
  | nil => rfl
  | cons c front ih =>
    rw [List.mem_cons, not_or] at unopened
    rw [List.cons_append, references_plain fun _ same _ => unopened.1 same.symm, ih unopened.2]

/-- A text without an opening brace holds no reference. -/
theorem references_of_not_mem {cs : List Char} (unopened : '{' ∉ cs) : references cs = [] := by
  -- Every reference begins with an opening brace.
  have alone := references_append_of_not_mem unopened []
  rwa [List.append_nil] at alone

/-- What a character that is missing from the front of a text follows lies behind that front. -/
theorem exists_of_append_cons_eq {α : Type} {a : α} {early late front rest : List α}
    (missing : a ∉ front) (same : early ++ a :: late = front ++ rest) :
    ∃ between, early = front ++ between ∧ rest = between ++ a :: late := by
  -- The element stands in the first list or behind it.
  rcases List.append_eq_append_iff.1 same with ⟨more, rfl, tail⟩ | ⟨between, whole, tail⟩
  · cases more with
    | nil => exact ⟨[], by simp, tail.symm⟩
    | cons b more =>
      cases tail
      simp at missing
  · exact ⟨between, whole, tail⟩

/-- No quote stands in what is read behind opening braces. -/
theorem readReference?_quote (inside after : List Char) :
    readReference? (inside ++ '"' :: after) =
      (readReference? inside).map fun (name, rest) => (name, rest ++ '"' :: after) := by
  cases found : readReference? inside with
  | some parts =>
    obtain ⟨front, back, token, rfl, blanks⟩ := readReference?_eq_some_iff.1 found
    refine readReference?_eq_some_iff.2 ⟨front, back, token, ?_, blanks⟩
    simp
  | none =>
    cases crossed : readReference? (inside ++ '"' :: after) with
    | none => rfl
    | some parts =>
      -- A reference that is read past the quote would end before it.
      obtain ⟨name, rest⟩ := parts
      obtain ⟨front, back, token, whole, frontBlank, backBlank, refers⟩ :=
        readReference?_eq_some_iff.1 crossed
      have unquoted : '"' ∉ front ++ name ++ back ++ ['}', '}'] := by
        rw [List.mem_append, not_or]
        exact ⟨refers.not_mem_spaced frontBlank backBlank (by decide) (by decide), by decide⟩
      have whole : inside ++ '"' :: after = front ++ name ++ back ++ ['}', '}'] ++ rest := by
        rw [whole]
        simp
      obtain ⟨between, rfl, -⟩ := exists_of_append_cons_eq unquoted whole
      have ends : readReference? (front ++ name ++ back ++ ['}', '}'] ++ between) =
          some (name, between) :=
        readReference?_eq_some_iff.2 ⟨front, back, token, by simp, frontBlank, backBlank, refers⟩
      cases found.symm.trans ends

/-- No reference reaches over a quote. -/
theorem references_quote (front after : List Char) :
    references (front ++ '"' :: after) = references front ++ references after := by
  have general : ∀ fuel, front.length ≤ fuel →
      references (front ++ '"' :: after) = referencesIn fuel front ++ references after := by
    intro fuel enough
    -- What is read in front of the quote is read alike without it.
    fun_induction referencesIn fuel front with
    | case1 front =>
      obtain rfl : front = [] := by simpa using enough
      exact references_plain (by rintro _ ⟨⟩)
    | case2 => exact references_plain (by rintro _ ⟨⟩)
    | case3 fuel inside name rest found ih =>
      have shorter := length_of_readReference? found
      simp only [List.length_cons] at enough
      have again := readReference?_quote inside after
      rw [found, Option.map_some] at again
      rw [List.cons_append, List.cons_append, references_found again, ih (by omega)]
      rfl
    | case4 fuel inside missing ih =>
      have again := readReference?_quote inside after
      rw [missing, Option.map_none] at again
      rw [List.cons_append, List.cons_append, references_missing again]
      exact ih (by simpa using enough)
    | case5 fuel c rest unbraced ih =>
      rw [List.cons_append, references_plain, ih (by simpa using enough)]
      -- Two braces would have been read as the start of a reference.
      rintro inside rfl brace
      cases rest with
      | nil => cases brace
      | cons d rest =>
        cases brace
        exact unbraced _ rfl rfl
  exact general _ (Nat.le_refl _)

/-- What a token refers to, as the reader of the raw text names it. -/
def Token.referenceName? : Token → Option String
  | .field name => some name
  | .foreign collection name => some (collection ++ "." ++ name)
  | _ => none

/-- A field of the same record is referred to by its name. -/
theorem Token.referenceName?_of_fieldName? {token : Token} {name : String}
    (field : token.fieldName? = some name) : token.referenceName? = some name := by
  -- A token of a field is the only one that has such a name.
  cases token with
  | field => exact field
  | _ => cases field

/-- The body of a reference is the name of its token. -/
theorem Refers.referenceName?_eq {body : List Char} {token : Token} (refers : Refers body token) :
    token.referenceName? = some (String.ofList body) := by
  -- A name of two parts is put together with its dot.
  cases refers with
  | field => rfl
  | foreign =>
    rw [Token.referenceName?, String.ofList_append, String.ofList_cons, ← String.append_assoc]
    rfl

/-- A reference names another collection exactly when its token does. -/
theorem Refers.isForeignName_iff {body : List Char} {token : Token} (refers : Refers body token) :
    isForeignName (String.ofList body) = true ↔
      ∃ collection name, token = .foreign collection name := by
  rw [isForeignName, String.toList_ofList, List.contains_iff_mem]
  cases refers with
  | field named =>
    refine ⟨fun dotted => ?_, nofun⟩
    exact absurd (ne_dot_of_isName named _ dotted) (by decide)
  -- The dot stands between the two parts.
  | foreign => exact ⟨fun _ => ⟨_, _, rfl⟩, fun _ => by simp⟩

/-- The token is an operator or another mark. -/
def Token.isMark : Token → Bool
  | .field _ => false
  | .foreign _ _ => false
  | .number _ => false
  | .string _ => false
  | .word _ => false
  | _ => true

/-- Symbols spell marks. -/
theorem isMark_of_mem_symbols {cs : List Char} {token : Token} (listed : (cs, token) ∈ symbols) :
    token.isMark = true := by
  -- The list of symbols is short enough to be looked through.
  have marks : ∀ entry ∈ symbols, entry.2.isMark = true := by decide
  exact marks _ listed

namespace Spells

/-- Only references in double braces and the contents of strings have an opening brace. -/
theorem not_mem_brace {cs : List Char} {token : Token} (spelled : Spells cs token)
    (plain : token.isReference = false) (noString : ∀ text, token ≠ .string text) : '{' ∉ cs := by
  -- Only references and strings are spelled with a brace.
  cases spelled with
  | reference _ _ refers => cases refers <;> cases plain
  | string => exact absurd rfl (noString _)
  | number spelled => exact fun member => absurd (spelled.mem member) (by decide)
  | word spelled =>
    intro member
    rcases List.mem_cons.1 member with rfl | later
    · exact absurd spelled.start (by decide)
    · exact absurd (spelled.rest _ later) (by decide)
  | symbol listed =>
    intro member
    have none : ∀ entry ∈ symbols, '{' ∉ entry.1 := by decide
    exact none _ listed member

/-- A string is spelled by its contents between quotes. -/
theorem exists_contents {cs : List Char} {text : String} (spelled : Spells cs (.string text)) :
    ∃ contents, cs = '"' :: contents ++ ['"'] := by
  -- A string is spelled between its quotes.
  cases spelled with
  | reference _ _ refers => cases refers
  | string => exact ⟨_, rfl⟩
  | symbol listed => cases isMark_of_mem_symbols listed

/-- A word is spelled by itself. -/
theorem exists_word {cs : List Char} {word : String} (spelled : Spells cs (.word word)) :
    ∃ first tail, cs = first :: tail ∧ IsWord first tail ∧
      word = String.ofList (first :: tail) := by
  -- A word is spelled as it is.
  cases spelled with
  | reference _ _ refers => cases refers
  | word spelled => exact ⟨_, _, rfl, spelled, rfl⟩
  | symbol listed => cases isMark_of_mem_symbols listed

/-- A reference in double braces is found, whatever follows it. -/
theorem references_reference {cs : List Char} {token : Token} (spelled : Spells cs token)
    (referring : token.isReference = true) :
    ∃ body, Refers body token ∧ references cs = [body] ∧
      ∀ after, references (cs ++ after) = body :: references after := by
  cases spelled with
  | @reference front body back token frontBlank backBlank refers =>
    -- The text alone is the case in which nothing follows.
    suffices followed : ∀ after, references ('{' :: '{' :: (front ++ body ++ back) ++ ['}', '}'] ++
        after) = body :: references after by
      have alone := followed []
      rw [List.append_nil] at alone
      exact ⟨body, refers, alone, followed⟩
    intro after
    have found : readReference? (front ++ body ++ back ++ '}' :: '}' :: after) =
        some (body, after) :=
      readReference?_eq_some_iff.2 ⟨front, back, token, rfl, frontBlank, backBlank, refers⟩
    rw [← references_found found]
    simp
  | @symbol _ token listed =>
    have mark := isMark_of_mem_symbols listed
    cases token with
    | field => cases mark
    | foreign => cases mark
    -- No other token refers to anything.
    | _ => cases referring
  | _ => cases referring

/-- The references in the spelling of a token stand in front of those in the rest. -/
theorem references_append {cs : List Char} {token : Token} (spelled : Spells cs token)
    (after : List Char) : references (cs ++ after) = references cs ++ references after := by
  cases referring : token.isReference with
  | true =>
    obtain ⟨body, -, alone, followed⟩ := spelled.references_reference referring
    rw [followed, alone]
    rfl
  | false =>
    by_cases quoted : ∃ text, token = .string text
    · -- The closing quote ends whatever the contents spell.
      obtain ⟨text, rfl⟩ := quoted
      obtain ⟨contents, rfl⟩ := spelled.exists_contents
      have closed := references_quote ('"' :: contents) []
      have followed := references_quote ('"' :: contents) after
      simp only [List.cons_append, List.append_assoc, List.nil_append] at closed followed ⊢
      rw [closed, followed, List.append_assoc]
      rfl
    · -- Without a brace nothing is read from the token.
      have unopened := spelled.not_mem_brace referring fun text same => quoted ⟨text, same⟩
      rw [references_append_of_not_mem unopened, references_of_not_mem unopened]
      rfl

/-- A token other than a string is spelled with the reference that it is, and with no other. -/
theorem references_eq {cs : List Char} {token : Token} (spelled : Spells cs token)
    (noString : ∀ text, token ≠ .string text) :
    (references cs).map String.ofList = token.referenceName?.toList := by
  -- A reference names what it refers to, and other tokens name nothing.
  cases referring : token.isReference with
  | true =>
    obtain ⟨body, refers, alone, -⟩ := spelled.references_reference referring
    rw [alone, refers.referenceName?_eq]
    rfl
  | false =>
    rw [references_of_not_mem (spelled.not_mem_brace referring noString)]
    cases token with
    | field => cases referring
    | foreign => cases referring
    | _ => rfl

/-- What a token refers to is named after another collection exactly when the token does so. -/
theorem isForeignName_iff {cs : List Char} {token : Token} (spelled : Spells cs token)
    {name : String} (refers : token.referenceName? = some name) :
    isForeignName name = true ↔ ∃ collection field, token = .foreign collection field := by
  -- A token with a name is a reference.
  have referring : token.isReference = true := by
    cases token with
    | field => rfl
    | foreign => rfl
    | _ => cases refers
  obtain ⟨body, found, -⟩ := spelled.references_reference referring
  cases refers.symm.trans found.referenceName?_eq
  exact found.isForeignName_iff

/-- A field of the same record has no name of another collection. -/
theorem isForeignName_of_fieldName? {cs : List Char} {token : Token} (spelled : Spells cs token)
    {name : String} (field : token.fieldName? = some name) : isForeignName name = false := by
  -- A foreign reference is no field.
  by_contra foreign
  rw [Bool.not_eq_false, spelled.isForeignName_iff (Token.referenceName?_of_fieldName? field)]
    at foreign
  obtain ⟨collection, other, rfl⟩ := foreign
  cases field

/-- Without the names of other collections, a token refers to the field that it names. -/
theorem filter_referenceName? {cs : List Char} {token : Token} (spelled : Spells cs token) :
    (token.referenceName?.filter fun name => !isForeignName name) = token.fieldName? := by
  -- Of the references those without a dot are the fields.
  cases token with
  | field name =>
    have plain := spelled.isForeignName_of_fieldName? rfl
    simp [Token.referenceName?, Token.fieldName?, plain]
  | foreign collection name =>
    have foreign := (spelled.isForeignName_iff rfl).2 ⟨collection, name, rfl⟩
    simp [Token.referenceName?, Token.fieldName?, foreign]
  | _ => rfl

end Spells

namespace Cut

variable {position : Nat} {cs : List Char} {pieces : List Piece}

/-- Every piece spells its token. -/
theorem spells (cut : Cut position cs pieces) :
    ∀ piece ∈ pieces, Spells piece.spelling piece.token := by
  -- Induction on the cut.
  induction cut with
  | done => exact nofun
  | gap _ _ ih => exact ih
  | piece _ read _ ih => exact List.forall_mem_cons.2 ⟨(lexeme_spells read).2, ih⟩

/-- The reader of the raw text finds the references in the spellings of the pieces one after
another. -/
theorem references_eq (cut : Cut position cs pieces) :
    references cs = pieces.flatMap fun piece => references piece.spelling := by
  -- Induction on the cut; blanks between the pieces open nothing.
  induction cut with
  | done => rfl
  | gap blank _ ih =>
    rw [references_plain, ih]
    rintro _ rfl _
    cases blank
  | piece _ read _ ih =>
    obtain ⟨whole, spelled⟩ := lexeme_spells read
    rw [whole, spelled.references_append, ih, List.flatMap_cons]

/-- What a token refers to is found, whatever the strings of the text hold. -/
theorem mem_references (cut : Cut position cs pieces) {piece : Piece} (member : piece ∈ pieces)
    {name : String} (refers : piece.token.referenceName? = some name) :
    name ∈ (references cs).map String.ofList := by
  -- A string refers to nothing, so the piece is none.
  have noString : ∀ text, piece.token ≠ .string text := by
    intro text same
    rw [same] at refers
    cases refers
  rw [cut.references_eq, List.map_flatMap, List.mem_flatMap]
  refine ⟨piece, member, ?_⟩
  rw [(cut.spells piece member).references_eq noString, refers]
  exact List.mem_singleton.2 rfl

/-- What the tokens refer to is all that is found when the strings of the text spell no
reference. -/
theorem references_eq_filterMap (cut : Cut position cs pieces)
    (plain : ∀ piece ∈ pieces, ∀ text, piece.token = .string text →
      references piece.spelling = []) :
    (references cs).map String.ofList =
      (pieces.map fun piece => piece.token).filterMap Token.referenceName? := by
  -- Strings are left to the hypothesis, and each other piece names what it refers to.
  rw [cut.references_eq, List.map_flatMap, List.filterMap_map, List.filterMap_eq_flatMap_toList]
  refine List.flatMap_congr fun piece member => ?_
  by_cases quoted : ∃ text, piece.token = .string text
  · obtain ⟨text, same⟩ := quoted
    rw [plain piece member text same, Function.comp, same]
    rfl
  · exact (cut.spells piece member).references_eq fun text same => quoted ⟨text, same⟩

end Cut

/-- Keeping each element once and keeping those that pass a test can be done in either order. -/
theorem filter_eraseDups (test : String → Bool) :
    ∀ names : List String, names.eraseDups.filter test = (names.filter test).eraseDups
  | [] => rfl
  | name :: names => by
    have ih := filter_eraseDups test (names.filter fun other => !other == name)
    rw [List.eraseDups_cons, List.filter_cons, List.filter_cons, ih, List.filter_filter]
    split
    · -- Whether other names are dropped before or after the test makes no difference.
      rw [List.eraseDups_cons, List.filter_filter]
      simp only [Bool.and_comm]
    · -- A name that fails the test is not among those that pass it.
      rename_i fails
      congr 1
      refine List.filter_congr fun other _ => ?_
      by_cases same : other = name
      · simp [same, fails]
      · simp [same]
termination_by names => names.length
decreasing_by exact Nat.lt_succ_of_le (List.length_filter_le ..)

namespace Expr

/-- A tree occurs in another one as a part of it. -/
inductive Occurs : Expr → Expr → Prop where
  | here {e : Expr} : Occurs e e
  | operand {part operand : Expr} {op : UnaryOp} (inside : Occurs part operand) :
      Occurs part (.unary op operand)
  | left {part left right : Expr} {op : BinaryOp} (inside : Occurs part left) :
      Occurs part (.binary op left right)
  | right {part left right : Expr} {op : BinaryOp} (inside : Occurs part right) :
      Occurs part (.binary op left right)
  | argument {part arg : Expr} {f : Function} {args : List Expr} (member : arg ∈ args)
      (inside : Occurs part arg) : Occurs part (.call f args)

end Expr

/-- Every part of a derived tree is derived. -/
theorem Derives.exists_of_occurs {level : Level} {tokens : List Token} {e part : Expr}
    (derived : Derives level tokens e) (occurs : Expr.Occurs part e) :
    ∃ level tokens, Derives level tokens part := by
  -- A part is the tree itself, which the rule at hand derives, or lies in an operand of the rule.
  induction derived with
  | tighter _ _ ih => exact ih occurs
  | binary operator left right first second =>
    cases occurs with
    | here => exact ⟨_, _, .binary operator left right⟩
    | left inside => exact first inside
    | right inside => exact second inside
  | negation negates operand ih =>
    cases occurs with
    | here => exact ⟨_, _, .negation negates operand⟩
    | operand inside => exact ih inside
  | signed known operand ih =>
    cases occurs with
    | here => exact ⟨_, _, .signed known operand⟩
    | operand inside => exact ih inside
  | number x =>
    cases occurs
    exact ⟨_, _, .number x⟩
  | string s =>
    cases occurs
    exact ⟨_, _, .string s⟩
  | field name =>
    cases occurs
    exact ⟨_, _, .field name⟩
  | foreign collection name =>
    cases occurs
    exact ⟨_, _, .foreign collection name⟩
  | constant known =>
    cases occurs
    exact ⟨_, _, .constant known⟩
  | enclosed _ ih => exact ih occurs
  | call named accepted derived ih =>
    cases occurs with
    | here => exact ⟨_, _, .call named accepted derived⟩
    | argument member inside =>
      obtain ⟨arg, listed, rfl⟩ := List.mem_map.1 member
      exact ih arg listed inside

/-- Parts joined by a separator hold besides it what one of the parts holds. -/
theorem mem_intercalate_iff {α : Type} {separator a : α} (other : a ≠ separator)
    {parts : List (List α)} : a ∈ [separator].intercalate parts ↔ ∃ part ∈ parts, a ∈ part := by
  -- Induction on the parts.
  induction parts with
  | nil => simp
  | cons first rest ih =>
    -- The separator stands only between two parts, so that the last one is apart.
    cases rest with
    | nil => simp
    | cons second rest =>
      rw [List.intercalate_cons_cons, List.mem_append, List.mem_append, ih, List.mem_singleton,
        or_iff_left other]
      exact (List.exists_mem_cons_iff (a ∈ ·) first (second :: rest)).symm

/-- A field of another collection occurs in a derived tree exactly when it stands among its
tokens. -/
theorem Derives.occurs_foreign_iff {level : Level} {tokens : List Token} {e : Expr}
    (derived : Derives level tokens e) {collection name : String} :
    Expr.Occurs (.foreign collection name) e ↔ .foreign collection name ∈ tokens := by
  -- Induction on the derivation; marks and words between operands are no references.
  have apart : ∀ {token : Token}, token.isReference = false → .foreign collection name ≠ token := by
    rintro _ plain rfl
    cases plain
  induction derived with
  | tighter _ _ ih => exact ih
  | binary operator _ _ firstOccurs secondOccurs =>
    have mark := apart (Token.isReference_of_operator? operator)
    rw [List.mem_append, List.mem_cons, firstOccurs.symm, secondOccurs.symm]
    constructor
    · rintro (_ | _ | inside | inside)
      · exact .inl inside
      · exact .inr (.inr inside)
    · rintro (inside | same | inside)
      · exact .left inside
      · exact absurd same mark
      · exact .right inside
  | negation negates _ ih =>
    rw [List.mem_cons, ih.symm, or_iff_right (apart (Token.isReference_of_negates negates))]
    exact ⟨fun | .operand inside => inside, .operand⟩
  | signed known _ ih =>
    rw [List.mem_cons, ih.symm, or_iff_right (apart (Token.isReference_of_sign? known))]
    exact ⟨fun | .operand inside => inside, .operand⟩
  | number => exact ⟨nofun, by simp⟩
  | string => exact ⟨nofun, by simp⟩
  | field => exact ⟨nofun, by simp⟩
  | foreign collected named =>
    rw [List.mem_singleton]
    constructor
    · rintro ⟨⟩
      rfl
    · rintro ⟨⟩
      exact .here
  | constant => exact ⟨nofun, by simp⟩
  | enclosed _ ih => simp [ih]
  | @call word f parts _ _ _ ih =>
    -- The tokens of the arguments stand between commas, in parentheses behind the word.
    have among : .foreign collection name ∈
        .word word :: .opening :: [Token.comma].intercalate (parts.map Prod.fst) ++ [.closing] ↔
          ∃ part ∈ parts, .foreign collection name ∈ part.1 := by
      have noComma : Token.foreign collection name ≠ .comma := nofun
      simp [mem_intercalate_iff noComma]
    rw [among]
    constructor
    · rintro (_ | _ | _ | _ | ⟨member, inside⟩)
      obtain ⟨part, listed, rfl⟩ := List.mem_map.1 member
      exact ⟨part, listed, (ih part listed).1 inside⟩
    · rintro ⟨part, member, inside⟩
      exact .argument (List.mem_map_of_mem member) ((ih part member).2 inside)

/-- The tree of a text is derived from the tokens of its pieces, and without any it is null. -/
theorem parse_cut {source : String} {e : Expr} (parsed : parse source = .ok e) :
    ∃ pieces, Cut 0 source.toList pieces ∧
      (pieces = [] ∧ e = .literal .null ∨ Derives .or (pieces.map fun piece => piece.token) e) := by
  -- A text is empty, or fails to be cut, or its tokens are parsed.
  unfold parse at parsed
  split at parsed
  · cases parsed
  · -- Without a token the formula is null.
    rename_i lexed
    cases parsed
    obtain ⟨pieces, cut, same⟩ := tokenize_eq_ok_iff.1 lexed
    exact ⟨pieces, cut, .inl ⟨List.map_eq_nil_iff.1 same.symm, rfl⟩⟩
  · rename_i lexed
    obtain ⟨pieces, cut, rfl⟩ := tokenize_eq_ok_iff.1 lexed
    have derived := parseTokens_derives parsed
    rw [List.map_map] at derived
    exact ⟨pieces, cut, .inr derived⟩

/-- The tree of a text names the fields among its tokens, and a field of another collection occurs
in it exactly when it stands among them. -/
theorem parse_mentions {source : String} {e : Expr} (parsed : parse source = .ok e) :
    ∃ pieces, Cut 0 source.toList pieces ∧
      e.mentions = (pieces.map fun piece => piece.token).filterMap Token.fieldName? ∧
      ∀ collection name, Expr.Occurs (.foreign collection name) e ↔
        .foreign collection name ∈ pieces.map fun piece => piece.token := by
  -- A text without pieces mentions nothing.
  obtain ⟨pieces, cut, ⟨rfl, rfl⟩ | derived⟩ := parse_cut parsed
  · refine ⟨[], cut, rfl, fun _ _ => ⟨nofun, nofun⟩⟩
  · exact ⟨pieces, cut, derived.mentions_eq, fun _ _ => derived.occurs_foreign_iff⟩

/-- Every field that the tree of a text names is one of the dependencies of the text. -/
theorem mentions_subset_dependencies {source : String} {e : Expr} (parsed : parse source = .ok e)
    {name : String} (named : name ∈ e.mentions) : name ∈ extractDependencies source := by
  obtain ⟨pieces, cut, mentions, -⟩ := parse_mentions parsed
  -- The name stands among the tokens, and the reader of the raw text finds it there.
  rw [mentions, List.filterMap_map, List.mem_filterMap] at named
  obtain ⟨piece, member, field⟩ := named
  have refers := Token.referenceName?_of_fieldName? field
  have plain := (cut.spells piece member).isForeignName_of_fieldName? field
  refine List.mem_filter.2 ⟨?_, by rw [plain]; rfl⟩
  exact List.mem_eraseDups.2 (cut.mem_references member refers)

/-- The field pattern matches somewhere in a text. A stretch of the text spells a reference, with
blanks allowed inside the double braces around it. -/
def HoldsReference (text : String) : Prop :=
  ∃ before spelled after token, text.toList = before ++ spelled ++ after ∧ Spells spelled token ∧
    token.isReference = true

/-- What is found in the rest of a text is not all lost with a character in front of it. -/
theorem references_cons_ne_nil {c : Char} {rest : List Char} (found : references rest ≠ []) :
    references (c :: rest) ≠ [] := by
  -- Only a second brace can make the character in front open a reference, and then it finds one or
  -- is passed over.
  by_cases braced : ∃ inside, c = '{' ∧ rest = '{' :: inside
  · obtain ⟨inside, rfl, rfl⟩ := braced
    cases outcome : readReference? inside with
    | none => rwa [references_missing outcome]
    | some parts =>
      rw [references_found outcome]
      exact List.cons_ne_nil _ _
  · rwa [references_plain fun inside brace next => braced ⟨inside, brace, next⟩]

/-- What the reader of the raw text finds stands in the text. -/
theorem exists_of_references_ne_nil {cs : List Char} (found : references cs ≠ []) :
    ∃ before spelled after token, cs = before ++ spelled ++ after ∧ Spells spelled token ∧
      token.isReference = true := by
  have general : ∀ (fuel : Nat) (cs : List Char), referencesIn fuel cs ≠ [] →
      ∃ before spelled after token, cs = before ++ spelled ++ after ∧ Spells spelled token ∧
        token.isReference = true := by
    intro fuel cs found
    -- What is left behind goes in front of the place where the first reference stands.
    fun_induction referencesIn fuel cs with
    | case1 => exact absurd rfl found
    | case2 => exact absurd rfl found
    | case3 fuel inside name after read ih =>
      obtain ⟨front, back, token, rfl, frontBlank, backBlank, refers⟩ :=
        readReference?_eq_some_iff.1 read
      refine ⟨[], _, after, token, ?_, .reference frontBlank backBlank refers, ?_⟩
      · -- The reference is spelled with its braces and its blanks.
        simp
      · cases refers <;> rfl
    | case4 fuel inside missing ih =>
      obtain ⟨before, spelled, after, token, rest, stands⟩ := ih found
      exact ⟨'{' :: before, spelled, after, token, congrArg ('{' :: ·) rest, stands⟩
    | case5 fuel c rest _ ih =>
      obtain ⟨before, spelled, after, token, rfl, stands⟩ := ih found
      exact ⟨c :: before, spelled, after, token, rfl, stands⟩
  exact general _ _ found

/-- The reader of the raw text finds something exactly where the field pattern matches. -/
theorem references_eq_nil_iff {text : String} :
    references text.toList = [] ↔ ¬ HoldsReference text := by
  rw [← not_iff_not, not_not]
  refine ⟨exists_of_references_ne_nil, ?_⟩
  rintro ⟨before, spelled, after, token, place, stands, referring⟩
  rw [place, List.append_assoc]
  clear place
  -- Conversely, a reference that is spelled somewhere is found.
  obtain ⟨body, -, -, found⟩ := stands.references_reference referring
  -- The reference is found where it stands, and not all is lost in front of it.
  induction before with
  | nil =>
    rw [List.nil_append, found]
    exact List.cons_ne_nil _ _
  | cons c before ih => exact references_cons_ne_nil ih

/-- A string literal of a text is the spelling of a string among the pieces of the text. -/
def IsStringLiteral (source literal : String) : Prop :=
  ∃ pieces, Cut 0 source.toList pieces ∧ ∃ piece ∈ pieces,
    (∃ text, piece.token = .string text) ∧ literal.toList = piece.spelling

/-- When the field pattern matches in no string literal, the tokens of a text refer to all that is
found in it. -/
theorem Cut.references_eq_of_not_holdsReference {source : String} {pieces : List Piece}
    (cut : Cut 0 source.toList pieces)
    (plain : ∀ literal, IsStringLiteral source literal → ¬ HoldsReference literal) :
    (references source.toList).map String.ofList =
      (pieces.map fun piece => piece.token).filterMap Token.referenceName? := by
  -- A string piece is a literal of the text, and holds no reference.
  refine cut.references_eq_filterMap fun piece member text same => ?_
  have literal : IsStringLiteral source (String.ofList piece.spelling) :=
    ⟨pieces, cut, piece, member, ⟨text, same⟩, String.toList_ofList⟩
  have none := references_eq_nil_iff.2 (plain _ literal)
  rwa [String.toList_ofList] at none

namespace Formula

/-- A text that compiles, with the field pattern in none of its string literals, has the fields of
its tree as its dependencies, in the same order. A name of another collection is extracted from the
text exactly when a field of another collection occurs in the tree. -/
theorem compile_extracts_references {source : String} {f : Formula}
    (compiled : compile source = .ok f)
    (plain : ∀ literal, IsStringLiteral source literal → ¬ HoldsReference literal) :
    extractDependencies source = f.expr.fields ∧
      ((∃ name ∈ extractFields source, isForeignName name = true) ↔
        ∃ collection name, Expr.Occurs (.foreign collection name) f.expr) := by
  obtain rfl := compile_eq_ok_iff.1 compiled
  obtain ⟨pieces, cut, mentions, occurs⟩ := parse_mentions f.parsed
  have found := cut.references_eq_of_not_holdsReference plain
  -- Every token of the cut is spelled by its piece.
  have spells : ∀ token ∈ pieces.map fun piece => piece.token, ∃ cs, Spells cs token := by
    simp only [List.mem_map]
    rintro _ ⟨piece, member, rfl⟩
    exact ⟨_, cut.spells piece member⟩
  have extracted : extractFields f.source =
      ((pieces.map fun piece => piece.token).filterMap Token.referenceName?).eraseDups := by
    rw [← found]
    rfl
  constructor
  · rw [extractDependencies, extracted, filter_eraseDups, Expr.fields, mentions,
      List.filter_filterMap]
    -- Of what the tokens refer to, the names of other collections are left out.
    congr 1
    refine List.filterMap_congr fun token member => ?_
    obtain ⟨cs, spelled⟩ := spells token member
    exact spelled.filter_referenceName?
  · -- A name is foreign when its token is, and each such token is in the tree.
    simp only [extracted, List.mem_eraseDups, List.mem_filterMap, occurs]
    constructor
    · rintro ⟨name, ⟨token, member, refers⟩, foreign⟩
      obtain ⟨cs, spelled⟩ := spells token member
      obtain ⟨collection, field, rfl⟩ := (spelled.isForeignName_iff refers).1 foreign
      exact ⟨collection, field, member⟩
    · rintro ⟨collection, field, member⟩
      obtain ⟨cs, spelled⟩ := spells _ member
      exact ⟨_, ⟨_, member, rfl⟩, (spelled.isForeignName_iff rfl).2 ⟨_, _, rfl⟩⟩

/-- A formula that reads a field of another collection and has a string in it. -/
def quoted : Formula :=
  ⟨" ".intercalate (quotedItems.map Prod.fst),
    .binary .and (.binary .lessEqual (.field "net") (.foreign "rates" "vat"))
      (.literal (.string "\"é")), by cbv⟩

/-- The string holds no reference, and what is extracted agrees with the tree. -/
theorem compile_extracts_references_quoted :
    compile quoted.source = .ok quoted ∧
      (∀ literal, IsStringLiteral quoted.source literal → ¬ HoldsReference literal) ∧
      extractDependencies quoted.source = ["net"] ∧
      ∃ name ∈ extractFields quoted.source, isForeignName name = true := by
  have compiled : compile quoted.source = .ok quoted := compile_eq_ok_iff.2 rfl
  have plain : ∀ literal, IsStringLiteral quoted.source literal → ¬ HoldsReference literal := by
    rintro literal ⟨pieces, cut, piece, member, ⟨text, string⟩, spelled⟩
    obtain ⟨others, again, -, same⟩ :=
      cut_places (fun item member => (canonical_quotedItems item member).spells) 0
    cases cut.unique again
    -- The only string of the text has no reference in it.
    have among : (String.ofList piece.spelling, piece.token) ∈ quotedItems := by
      rw [same]
      exact List.mem_map_of_mem member
    rw [string, ← spelled, String.ofList_toList] at among
    obtain ⟨rfl, -⟩ : literal = "\"\\\"é\"" ∧ text = "\"é" := by simpa [quotedItems] using among
    exact references_eq_nil_iff.1 (by cbv)
  obtain ⟨dependencies, extracted⟩ := compile_extracts_references compiled plain
  refine ⟨compiled, plain, dependencies, extracted.2 ⟨"rates", "vat", ?_⟩⟩
  exact .left (.right .here)

end Formula

end CalcFields
