import CalcFields.Proofs.Formula.Extraction

/-!
Whether a text is local is decided by the spellings of its tokens one by one. In a text that
compiles a reference to another collection is not local, no other token but a string can fail to be,
and a string fails when its own spelling does.
-/

namespace CalcFields

/-- A word stands for another one in capitals, letter by letter. -/
def FoldsTo (capitals word : List Char) : Prop :=
  List.Forall₂ (fun capital c => foldsTo capital c = true) capitals word

/-- What is dropped from the front of a text is a word that stands for the capitals. -/
theorem dropFolded?_eq_some_iff {capitals cs rest : List Char} :
    dropFolded? capitals cs = some rest ↔ ∃ word, cs = word ++ rest ∧ FoldsTo capitals word := by
  -- Induction on the letters of the name, each of which takes one character.
  fun_induction dropFolded? capitals cs with
  | case1 cs =>
    constructor
    · rintro ⟨⟩
      exact ⟨[], rfl, .nil⟩
    · rintro ⟨_, rfl, ⟨⟩⟩
      rfl
  | case2 capital more c cs folds ih =>
    rw [ih]
    constructor
    · rintro ⟨word, rfl, folded⟩
      exact ⟨c :: word, rfl, .cons folds folded⟩
    · rintro ⟨_, same, _ | ⟨_, folded⟩⟩
      cases same
      exact ⟨_, rfl, folded⟩
  | case3 capital more c cs other =>
    refine ⟨nofun, ?_⟩
    rintro ⟨_, same, _ | ⟨folds, _⟩⟩
    cases same
    exact absurd folds other
  | case4 =>
    refine ⟨nofun, ?_⟩
    rintro ⟨_, same, _ | _⟩
    cases same

/-- A call of a relational function is its name in any letter case, with blanks before a
parenthesis. -/
theorem startsRelational_iff {cs : List Char} :
    startsRelational cs = true ↔ ∃ name ∈ relationalFunctions, ∃ word blanks after,
      cs = word ++ blanks ++ '(' :: after ∧ FoldsTo name.toList word ∧
        ∀ c ∈ blanks, isBlank c = true := by
  simp only [startsRelational, List.any_eq_true]
  -- Both sides try the names one by one.
  refine exists_congr fun name => and_congr_right fun _ => ?_
  constructor
  · intro called
    split at called
    · rename_i rest dropped
      obtain ⟨word, rfl, folded⟩ := dropFolded?_eq_some_iff.1 dropped
      obtain ⟨blanks, spaced, blank⟩ := trimFront_append rest
      rw [beq_iff_eq] at called
      obtain ⟨after, opened⟩ := List.head?_eq_some_iff.1 called
      refine ⟨word, blanks, after, ?_, folded, blank⟩
      rw [List.append_assoc, ← opened, ← spaced]
    · cases called
  · -- The blanks are trimmed up to the parenthesis.
    rintro ⟨word, blanks, after, rfl, folded, blank⟩
    rw [List.append_assoc]
    have dropped : dropFolded? name.toList (word ++ (blanks ++ '(' :: after)) =
        some (blanks ++ '(' :: after) := dropFolded?_eq_some_iff.2 ⟨word, rfl, folded⟩
    have opened : trimFront (blanks ++ '(' :: after) = '(' :: after := by
      refine trimFront_blanks blank ?_
      rintro c ⟨⟩
      decide
    simp only [dropped, opened]
    rfl

/-- Every character of a word stands for one of the capitals. -/
theorem FoldsTo.exists_capital {capitals word : List Char} (folded : FoldsTo capitals word)
    {c : Char} (member : c ∈ word) : ∃ capital ∈ capitals, foldsTo capital c = true := by
  -- Induction on the letters.
  induction folded with
  | nil => cases member
  | cons folds _ ih =>
    rcases List.mem_cons.1 member with rfl | later
    · exact ⟨_, List.mem_cons_self, folds⟩
    · obtain ⟨capital, among, folds⟩ := ih later
      exact ⟨capital, List.mem_cons_of_mem _ among, folds⟩

/-- A character that becomes a name character in capitals is one. -/
theorem isNameChar_of_toUpper {c : Char} (named : isNameChar c.toUpper = true) :
    isNameChar c = true := by
  by_cases lower : c.isLower = true
  · simp [isNameChar, Char.isAlphanum, Char.isAlpha, lower]
  · -- Only small letters have another capital.
    have same : c.toUpper = c := by
      simp only [Char.isLower, Bool.and_eq_true, decide_eq_true_eq] at lower
      exact dif_neg lower
    rwa [same] at named

/-- In the first 128 characters a letter stands for its own capital only. -/
theorem toUpper_of_foldsTo {capital c : Char} (folds : foldsTo capital c = true)
    (narrow : c.toNat ≤ 126) : c.toUpper = capital := by
  -- Only two characters fold to a letter without being one, and both lie far above.
  simp only [foldsTo, Bool.or_eq_true, Bool.and_eq_true, beq_iff_eq] at folds
  rcases folds with (same | ⟨-, rfl⟩) | ⟨-, rfl⟩
  · exact same
  · exact absurd narrow (by decide)
  · exact absurd narrow (by decide)

/-- The names of the relational functions hold name characters only, and so does every word of the
first 128 characters that stands for one. -/
theorem FoldsTo.named {name : String} (listed : name ∈ relationalFunctions) {word : List Char}
    (folded : FoldsTo name.toList word) {c : Char} (member : c ∈ word) (narrow : c.toNat ≤ 126) :
    isNameChar c = true := by
  -- Relational names are made of letters and the line.
  have letters : ∀ name ∈ relationalFunctions,
      name.toList.all isNameChar = true := by
    decide
  obtain ⟨capital, among, folds⟩ := folded.exists_capital member
  refine isNameChar_of_toUpper ?_
  rw [toUpper_of_foldsTo folds narrow]
  exact List.all_eq_true.1 (letters name listed) capital among

/-- A character starts the name of a relational function in some letter case. -/
def isInitial (c : Char) : Bool :=
  relationalFunctions.any fun name => name.toList.head?.any (foldsTo · c)

/-- A call of a relational function starts with the initial of a name. -/
theorem startsRelational_cons {c : Char} (other : isInitial c = false) (rest : List Char) :
    startsRelational (c :: rest) = false := by
  by_contra called
  rw [Bool.not_eq_false] at called
  obtain ⟨name, listed, word, blanks, after, whole, folded, -⟩ := startsRelational_iff.1 called
  -- A call starts with a name, and a name with one of the initials.
  have named : ∀ name ∈ relationalFunctions, name.toList ≠ [] := by decide
  obtain ⟨capital, more, letters⟩ := List.exists_cons_of_ne_nil (named name listed)
  rw [letters] at folded
  obtain _ | ⟨folds, _⟩ := folded
  cases whole
  have initial : isInitial c = true := by
    simp only [isInitial, List.any_eq_true]
    exact ⟨name, listed, by rw [letters]; exact folds⟩
  cases other.symm.trans initial

/-- A quote and a closing brace end every call of a relational function before them. -/
theorem startsRelational_append_cons {mark : Char} (known : mark = '"' ∨ mark = '}')
    (front rest : List Char) :
    startsRelational (front ++ mark :: rest) = startsRelational front := by
  rw [Bool.eq_iff_iff, startsRelational_iff, startsRelational_iff]
  refine exists_congr fun name => and_congr_right fun listed => ?_
  constructor
  · rintro ⟨word, blanks, after, whole, folded, blank⟩
    have apart : mark ∉ word ++ blanks ++ ['('] := by
      simp only [List.mem_append, not_or]
      -- The mark is no letter of a name, no blank and no parenthesis.
      refine ⟨⟨fun member => ?_, fun member => ?_⟩, ?_⟩
      · have named := folded.named listed member (by rcases known with rfl | rfl <;> decide)
        rcases known with rfl | rfl <;> cases named
      · have blank := blank mark member
        rcases known with rfl | rfl <;> cases blank
      · rcases known with rfl | rfl <;> decide
    have whole : front ++ mark :: rest = word ++ blanks ++ ['('] ++ after := by
      -- So a call that is found is over before the mark.
      rw [whole]
      simp
    obtain ⟨between, rfl, -⟩ := exists_of_append_cons_eq apart whole
    exact ⟨word, blanks, between, by simp, folded, blank⟩
  · rintro ⟨word, blanks, after, rfl, folded, blank⟩
    exact ⟨word, blanks, after ++ mark :: rest, by simp, folded, blank⟩

/-- A call starts at the first character of a text or behind it. -/
theorem callsRelational_cons (afterWord : Bool) (c : Char) (rest : List Char) :
    callsRelational afterWord (c :: rest) =
      (!afterWord && startsRelational (c :: rest) || callsRelational (isWordChar c) rest) :=
  rfl

/-- No relational function is called without a parenthesis. -/
theorem callsRelational_of_not_mem {cs : List Char} (unopened : '(' ∉ cs) (afterWord : Bool) :
    callsRelational afterWord cs = false := by
  -- Induction on the text.
  induction cs generalizing afterWord with
  | nil => rfl
  | cons c cs ih =>
    rw [callsRelational_cons, ih (fun later => unopened (List.mem_cons_of_mem _ later)),
      Bool.or_false]
    -- A call has its parenthesis in the text.
    have none : startsRelational (c :: cs) = false := by
      by_contra called
      rw [Bool.not_eq_false] at called
      obtain ⟨_, _, word, blanks, after, whole, -⟩ := startsRelational_iff.1 called
      rw [whole] at unopened
      simp at unopened
    rw [none, Bool.and_false]

/-- The calls before a quote or a closing brace are apart from those behind it. -/
theorem callsRelational_append_cons {mark : Char} (known : mark = '"' ∨ mark = '}')
    (front rest : List Char) (afterWord : Bool) :
    callsRelational afterWord (front ++ mark :: rest) =
      (callsRelational afterWord front || callsRelational false rest) := by
  -- Induction on the text in front of the mark.
  induction front generalizing afterWord with
  | nil =>
    have none := startsRelational_append_cons known [] rest
    -- Neither mark goes on with a word, so what is behind it starts anew.
    have apart : isWordChar mark = false := by rcases known with rfl | rfl <;> decide
    rw [List.nil_append] at none
    rw [List.nil_append, callsRelational_cons, none, apart]
    cases afterWord <;> rfl
  | cons c front ih =>
    have same := startsRelational_append_cons known (c :: front) rest
    rw [List.cons_append] at same
    rw [List.cons_append, callsRelational_cons, callsRelational_cons, ih, same, Bool.or_assoc]

/-- Characters that start no name are passed over. -/
theorem callsRelational_plain {front : List Char} (plain : ∀ c ∈ front, isInitial c = false)
    (afterWord : Bool) : ∃ other, ∀ rest,
      callsRelational afterWord (front ++ rest) = callsRelational other rest := by
  -- Induction on the characters to be passed.
  induction front generalizing afterWord with
  | nil => exact ⟨afterWord, fun _ => rfl⟩
  | cons c front ih =>
    obtain ⟨first, others⟩ := List.forall_mem_cons.1 plain
    -- Whether a word goes on is all that is left of the characters that were passed.
    obtain ⟨other, same⟩ := ih others (isWordChar c)
    refine ⟨other, fun rest => ?_⟩
    rw [List.cons_append, callsRelational_cons, startsRelational_cons first, Bool.and_false,
      Bool.false_or, same]

/-- A mark at the end of a spelling ends all calls in it, when its first character starts none. -/
theorem callsRelational_closed {c mark : Char} (plain : isInitial c = false)
    (known : mark = '"' ∨ mark = '}') (inside after : List Char) (afterWord : Bool) :
    callsRelational afterWord (c :: inside ++ [mark] ++ after) =
      (callsRelational false (c :: inside ++ [mark]) || callsRelational false after) := by
  -- The first character only says whether a word goes on.
  have first : ∀ afterWord, callsRelational afterWord (c :: inside) =
      callsRelational (isWordChar c) inside := by
    intro afterWord
    rw [callsRelational_cons, startsRelational_cons plain, Bool.and_false, Bool.false_or]
  rw [List.append_assoc, List.singleton_append, callsRelational_append_cons known,
    callsRelational_append_cons known, first afterWord, first false]
  simp [callsRelational]

/-- Name characters are word characters. -/
theorem isWordChar_of_isNameChar {c : Char} (named : isNameChar c = true) :
    isWordChar c = true := by
  -- Name characters lie below 128, where the table is not asked.
  have bounds := toNat_of_isNameChar named
  rw [isWordChar, if_pos (by omega)]
  exact named

/-- Name characters behind a word character go on with the word. -/
theorem callsRelational_named {front : List Char} (named : ∀ c ∈ front, isNameChar c = true)
    (rest : List Char) : callsRelational true (front ++ rest) = callsRelational true rest := by
  -- Within a word no call starts, whatever the letters are.
  induction front with
  | nil => rfl
  | cons c front ih =>
    obtain ⟨first, others⟩ := List.forall_mem_cons.1 named
    rw [List.cons_append, callsRelational_cons, isWordChar_of_isNameChar first, ih others]
    rfl

/-- No digit starts a name. -/
theorem isInitial_of_isDigit {c : Char} (digit : c.isDigit = true) : isInitial c = false := by
  -- There are ten digits to look at.
  have none : ∀ n < 58, 48 ≤ n → isInitial (Char.ofNat n) = false := by decide
  simp only [Char.isDigit, Bool.and_eq_true, decide_eq_true_eq, ge_iff_le,
    UInt32.le_iff_toNat_le] at digit
  have plain := none c.toNat (Nat.lt_succ_of_le digit.2) digit.1
  rwa [Char.ofNat_toNat] at plain

namespace Spells

/-- The calls in the spelling of a token are apart from those behind it, unless a word is called. -/
theorem callsRelational_append {cs : List Char} {token : Token} (spelled : Spells cs token)
    {after : List Char}
    (uncalled : ∀ word, token = .word word → startsRelational (cs ++ after) = false)
    (afterWord : Bool) : ∃ other, callsRelational afterWord (cs ++ after) =
      (callsRelational false cs || callsRelational other after) := by
  -- Characters that start no name hold no call, and are passed over in front of others.
  have skipped : (∀ c ∈ cs, isInitial c = false) → ∃ other,
      callsRelational afterWord (cs ++ after) =
        (callsRelational false cs || callsRelational other after) := by
    intro plain
    obtain ⟨other, same⟩ := callsRelational_plain plain afterWord
    obtain ⟨_, alone⟩ := callsRelational_plain plain false
    have none := alone []
    rw [List.append_nil] at none
    exact ⟨other, by rw [same, none]; rfl⟩
  cases spelled with
  | @reference front body back =>
    have whole : '{' :: '{' :: (front ++ body ++ back) ++ ['}', '}'] =
        '{' :: ('{' :: (front ++ body ++ back) ++ ['}']) ++ ['}'] := by simp
    rw [whole]
    exact ⟨false, callsRelational_closed (by decide) (by decide) _ after afterWord⟩
  -- A string is closed by its quote.
  | string => exact ⟨false, callsRelational_closed (by decide) (by decide) _ after afterWord⟩
  | number spelled =>
    refine skipped fun c member => ?_
    rcases spelled.mem member with digit | mark
    · exact isInitial_of_isDigit digit
    · simp only [List.mem_cons, List.not_mem_nil, or_false] at mark
      rcases mark with rfl | rfl | rfl | rfl | rfl <;> decide
  | @word first tail spelled =>
    have unopened : '(' ∉ first :: tail := fun member =>
      absurd (spelled.named _ member) (by decide)
    have word := isWordChar_of_isNameChar (spelled.named first List.mem_cons_self)
    have uncalled := uncalled _ rfl
    refine ⟨true, ?_⟩
    rw [List.cons_append] at uncalled ⊢
    rw [callsRelational_of_not_mem unopened, callsRelational_cons, uncalled, Bool.and_false, word,
      callsRelational_named spelled.rest]
  | symbol listed =>
    have plain : ∀ entry ∈ symbols, (entry.1.all fun c => !isInitial c) = true := by decide
    exact skipped (by simpa using plain _ listed)

/-- A token other than a string is spelled without a call. -/
theorem callsRelational_eq_false {cs : List Char} {token : Token} (spelled : Spells cs token)
    (noString : ∀ text, token ≠ .string text) : callsRelational false cs = false := by
  cases spelled with
  | reference frontBlank backBlank refers =>
    have unopened := refers.not_mem_spaced frontBlank backBlank (c := '(') (by decide) (by decide)
    simp only [List.mem_append, not_or] at unopened
    refine callsRelational_of_not_mem ?_ false
    simp [unopened]
  | string => exact absurd rfl (noString _)
  | number spelled =>
    refine callsRelational_of_not_mem (fun member => ?_) false
    exact absurd (spelled.mem member) (by decide)
  | word spelled =>
    refine callsRelational_of_not_mem (fun member => ?_) false
    exact absurd (spelled.named _ member) (by decide)
  -- The symbols are looked at one by one.
  | symbol listed =>
    have none : ∀ entry ∈ symbols, callsRelational false entry.1 = false := by decide
    exact none _ listed

end Spells

/-- A word of the first 128 characters that stands for capitals becomes them. -/
theorem FoldsTo.map_toUpper {capitals word : List Char} (folded : FoldsTo capitals word)
    (narrow : ∀ c ∈ word, c.toNat ≤ 126) : word.map Char.toUpper = capitals := by
  -- Induction on the letters.
  induction folded with
  | nil => rfl
  | cons folds _ ih =>
    obtain ⟨first, others⟩ := List.forall_mem_cons.1 narrow
    rw [List.map_cons, toUpper_of_foldsTo folds first, ih others]

/-- A call that starts with a whole word is a call of that word. -/
theorem capitals_of_startsRelational {word after : List Char}
    (named : ∀ c ∈ word, isNameChar c = true)
    (ends : ∀ d ∈ after.head?, isNameChar d = false ∧ d.toNat ≤ 126)
    (called : startsRelational (word ++ after) = true) :
    Function.capitals (String.ofList word) ∈ relationalFunctions ∧
      ∃ blanks more, after = blanks ++ '(' :: more ∧ ∀ c ∈ blanks, isBlank c = true := by
  obtain ⟨name, listed, spelled, blanks, more, whole, folded, blank⟩ :=
    startsRelational_iff.1 called
  -- The name of the function ends where the word does.
  obtain ⟨rfl, rfl⟩ : spelled = word ∧ after = blanks ++ '(' :: more := by
    rw [List.append_assoc] at whole
    rcases List.append_eq_append_iff.1 whole with ⟨extra, rfl, rest⟩ | ⟨extra, rfl, rest⟩
    · cases extra with
      | nil => exact ⟨List.append_nil _, rest⟩
      | cons d extra =>
        -- A letter of the name behind the word would go on with the word.
        obtain ⟨plain, narrow⟩ := ends d (by simp [rest])
        cases plain.symm.trans (folded.named listed (by simp) narrow)
    · cases extra with
      | nil => exact ⟨(List.append_nil _).symm, rest.symm⟩
      | cons d extra =>
        -- A name character of the word is neither a blank nor a parenthesis.
        have letter := named d (by simp)
        cases blanks with
        | nil =>
          cases rest
          cases letter
        | cons b blanks =>
          obtain ⟨rfl, -⟩ := List.cons.inj rest
          cases (blank b List.mem_cons_self).symm.trans (isBlank_of_isNameChar letter)
  -- Within the first 128 characters folding is taking capitals.
  have narrow : ∀ c ∈ spelled, c.toNat ≤ 126 := by
    intro c member
    have bounds := toNat_of_isNameChar (named c member)
    omega
  refine ⟨?_, blanks, more, rfl, blank⟩
  rw [Function.capitals, String.toList_ofList, folded.map_toUpper narrow, String.ofList_toList]
  exact listed

/-- A word is cut off as far as it goes. -/
theorem word_ends {c : Char} {rest : List Char} {found : Lexeme} {word : String}
    (read : lexeme c rest = .ok found) (token : found.token = .word word) :
    ∃ first tail, found.spelling = first :: tail ∧ IsWord first tail ∧
      word = String.ofList (first :: tail) ∧ ∀ d ∈ found.rest.head?, isNameChar d = false := by
  obtain ⟨whole, spelled⟩ := lexeme_spells read
  rw [token] at spelled
  obtain ⟨first, tail, spelling, word, rfl⟩ := spelled.exists_word
  refine ⟨first, tail, spelling, word, rfl, fun d head => ?_⟩
  by_contra named
  rw [Bool.not_eq_false] at named
  -- With another name character there would be a longer word at the front.
  obtain ⟨more, left⟩ := List.head?_eq_some_iff.1 (Option.mem_def.1 head)
  have longer : IsWord first (tail ++ [d]) :=
    ⟨word.start, List.forall_mem_append.2 ⟨word.rest, by simpa using named⟩⟩
  have front : c :: rest = first :: (tail ++ [d]) ++ more := by
    rw [whole, spelling, left]
    simp
  have no := (lexeme_longest read (.word longer) front).length_le
  rw [spelling] at no
  simp only [List.length_cons, List.length_append, List.length_nil] at no
  omega

/-- A token may precede another one unless it is the name of a relational function and the other one
opens a parenthesis. -/
def MayPrecede (first second : Token) : Prop :=
  ∀ word, first = .word word → second = .opening →
    Function.capitals word ∉ relationalFunctions

/-- No blank starts a name. -/
theorem isInitial_of_isGap {c : Char} (blank : isGap c = true) : isInitial c = false := by
  -- There are five blanks between tokens.
  simp only [isGap, Bool.or_eq_true, beq_iff_eq] at blank
  rcases blank with (((rfl | rfl) | rfl) | rfl) | rfl <;> decide

namespace Cut

variable {position : Nat} {cs : List Char} {pieces : List Piece}

/-- Every piece starts with a visible character, and every blank is one of the first 128. -/
theorem start_le {c : Char} {rest : List Char} (cut : Cut position (c :: rest) pieces) :
    isGap c = true ∨ 33 ≤ c.toNat ∧ c.toNat ≤ 126 := by
  -- A text that is cut starts with a blank or with a token.
  cases cut with
  | gap blank => exact .inl blank
  | piece _ read =>
    obtain ⟨whole, spelled⟩ := lexeme_spells read
    -- The character is the first one of a spelling.
    obtain ⟨first, tail, spelling⟩ := List.exists_cons_of_ne_nil spelled.ne_nil
    rw [spelling] at whole spelled
    cases whole
    exact .inr spelled.start_visible

/-- An opening parenthesis behind blanks is the first piece. -/
theorem opening {blanks more : List Char} (blank : ∀ c ∈ blanks, isBlank c = true)
    (cut : Cut position (blanks ++ '(' :: more) pieces) :
    ∃ piece others, pieces = piece :: others ∧ piece.token = .opening := by
  -- Induction on the blanks.
  induction blanks generalizing position with
  | nil =>
    have single : lexeme '(' more = .ok ⟨.opening, ['('], more⟩ := by
      cases more <;> rfl
    obtain ⟨later, _, rfl⟩ := (piece_iff rfl single).1 cut
    exact ⟨_, later, rfl, rfl⟩
  | cons b blanks ih =>
    obtain ⟨first, others⟩ := List.forall_mem_cons.1 blank
    cases cut with
    | gap _ more => exact ih others more
    | piece solid read rest =>
      -- No token starts with a blank.
      rcases (Cut.piece solid read rest).start_le with gap | visible
      · cases solid.symm.trans gap
      · cases first.symm.trans (isBlank_of_visible visible)

/-- The calls in a text are those in the spellings of its pieces one by one, when no relational
function is called outside of strings. -/
theorem callsRelational_eq (cut : Cut position cs pieces)
    (chain : (pieces.map fun piece => piece.token).IsChain MayPrecede) (afterWord : Bool) :
    callsRelational afterWord cs =
      pieces.any fun piece => callsRelational false piece.spelling := by
  -- Induction on the cut; the characters between pieces start no name.
  induction cut generalizing afterWord with
  | done => rfl
  | gap blank _ ih =>
    have plain : isInitial _ = false := isInitial_of_isGap blank
    rw [callsRelational_cons, startsRelational_cons plain, Bool.and_false, Bool.false_or, ih chain]
  | @piece position c rest found pieces solid read more ih =>
    obtain ⟨whole, spelled⟩ := lexeme_spells read
    rw [List.map_cons, List.isChain_cons] at chain
    have uncalled : ∀ word, found.token = .word word →
        startsRelational (found.spelling ++ found.rest) = false := by
      intro word token
      by_contra called
      rw [Bool.not_eq_false] at called
      obtain ⟨first, tail, spelling, known, rfl, ends⟩ := word_ends read token
      rw [spelling] at called
      -- What follows the word starts a piece or is a blank, and is no letter beyond the first 128.
      have narrow : ∀ d ∈ found.rest.head?, isNameChar d = false ∧ d.toNat ≤ 126 := by
        intro d head
        refine ⟨ends d head, ?_⟩
        obtain ⟨after, left⟩ := List.head?_eq_some_iff.1 (Option.mem_def.1 head)
        rw [left] at more
        rcases more.start_le with gap | visible
        · by_contra wide
          rw [isGap_of_visible (by omega)] at gap
          cases gap
        · exact visible.2
      obtain ⟨listed, blanks, after, opened, blank⟩ :=
        capitals_of_startsRelational known.named narrow called
      rw [opened] at more
      obtain ⟨piece, others, rfl, opening⟩ := more.opening blank
      exact chain.1 _ rfl _ token opening listed
    obtain ⟨other, same⟩ := spelled.callsRelational_append uncalled afterWord
    rw [whole, same, ih chain.2 other, List.any_cons]

end Cut

/-- No name in the table of functions is one of a relational function. -/
theorem table_name_not_mem_relationalFunctions :
    ∀ entry ∈ Function.table, entry.2.1 ∉ relationalFunctions := by
  decide

/-- No function of the language is relational. -/
theorem Function.name_not_mem_relationalFunctions (f : Function) :
    f.name ∉ relationalFunctions := by
  -- The names of the table are none of the relational ones.
  rw [name, row]
  cases found : table.lookup f with
  | none => decide
  | some row =>
    obtain ⟨before, after, split, -⟩ := List.lookup_eq_some_iff.1 found
    exact table_name_not_mem_relationalFunctions (f, row) (by rw [split]; simp)

/-- A word that names a function names no relational one. -/
theorem capitals_not_mem_of_named? {word : String} {f : Function}
    (named : Function.named? word = some f) : Function.capitals word ∉ relationalFunctions := by
  -- A function that has a name here stands in the table of functions, and none of the relational
  -- ones does.
  obtain ⟨entry, found, -⟩ := Option.map_eq_some_iff.1 named
  have same : entry.2.1 = Function.capitals word := by simpa using List.find?_some found
  rw [← same]
  exact table_name_not_mem_relationalFunctions entry (List.mem_of_find?_eq_some found)

/-- A word that is an operator names no relational function. -/
theorem capitals_not_mem_of_operator? {level : Level} {op : BinaryOp} {word : String}
    (known : (Token.word word).operator? level = some op) :
    Function.capitals word ∉ relationalFunctions := by
  -- Two words are operators.
  cases level with
  | or =>
    have same : Function.capitals word = "OR" := by
      by_contra other
      simp [Token.operator?, Token.isWord, other] at known
    rw [same]
    decide
  | and =>
    have same : Function.capitals word = "AND" := by
      by_contra other
      simp [Token.operator?, Token.isWord, other] at known
    rw [same]
    decide
  | _ => cases known

namespace MayPrecede

variable {first second : Token}

/-- Any token may precede another one than an opening parenthesis. -/
theorem of_ne_opening (other : second ≠ .opening) : MayPrecede first second :=
  fun _ _ opening => absurd opening other

/-- A token that is no word may precede any token. -/
theorem of_ne_word (other : ∀ word, first ≠ .word word) : MayPrecede first second :=
  fun word named _ => absurd named (other word)

end MayPrecede

/-- Parts joined by commas are in order when each of them is. -/
theorem isChain_intercalate {parts : List (List Token)}
    (chains : ∀ part ∈ parts, part.IsChain MayPrecede) :
    ([Token.comma].intercalate parts).IsChain MayPrecede := by
  -- Induction on the parts.
  induction parts with
  | nil => exact .nil
  | cons first rest ih =>
    obtain ⟨chain, others⟩ := List.forall_mem_cons.1 chains
    cases rest with
    | nil => simpa using chain
    | cons second rest =>
      -- A comma may stand behind any token and in front of any token.
      rw [List.intercalate_cons_cons, List.append_assoc, List.singleton_append]
      refine List.isChain_append.2 ⟨chain, List.isChain_cons.2 ⟨?_, ih others⟩, ?_⟩
      · exact fun _ _ => .of_ne_word nofun
      · rintro x _ _ ⟨⟩
        exact .of_ne_opening nofun

/-- In derived tokens no parenthesis opens behind the name of a relational function. -/
theorem Derives.isChain {level : Level} {tokens : List Token} {e : Expr}
    (derived : Derives level tokens e) : tokens.IsChain MayPrecede := by
  -- Induction on the derivation.
  induction derived with
  | tighter _ _ ih => exact ih
  | binary operator _ _ firstChain secondChain =>
    -- An operator opens no parenthesis, and the words among the operators are not relational.
    refine List.isChain_append.2 ⟨firstChain, List.isChain_cons.2 ⟨?_, secondChain⟩, ?_⟩
    · rintro next _ word rfl _
      exact capitals_not_mem_of_operator? operator
    · rintro last _ symbol ⟨⟩
      refine .of_ne_opening ?_
      rintro rfl
      cases isOpening_of_operator? operator
  | negation negates _ ih =>
    refine List.isChain_cons.2 ⟨?_, ih⟩
    rintro next _ word rfl _
    rcases negates with same | ⟨named, -⟩
    · cases same
    · have same : Function.capitals word = "NOT" := by simpa [Token.isWord] using named
      rw [same]
      decide
  | signed known _ ih =>
    refine List.isChain_cons.2 ⟨fun next _ => .of_ne_word ?_, ih⟩
    rintro word rfl
    cases known
  | enclosed _ ih =>
    refine List.isChain_cons.2 ⟨fun _ _ => .of_ne_word nofun, ?_⟩
    refine List.isChain_append.2 ⟨ih, .singleton _, ?_⟩
    rintro last _ _ ⟨⟩
    exact .of_ne_opening nofun
  | @call word f parts named _ _ ih =>
    have inner : ([Token.comma].intercalate (parts.map Prod.fst)).IsChain MayPrecede := by
      refine isChain_intercalate ?_
      simpa using fun part e member => ih (part, e) member
    refine List.isChain_cons.2 ⟨?_, List.isChain_cons.2 ⟨fun _ _ => .of_ne_word nofun, ?_⟩⟩
    · -- A word in front of a parenthesis names a function.
      rintro _ ⟨⟩ _ ⟨⟩ _
      exact capitals_not_mem_of_named? named
    · refine List.isChain_append.2 ⟨inner, .singleton _, ?_⟩
      rintro last _ _ ⟨⟩
      exact .of_ne_opening nofun
  | _ => exact .singleton _

/-- A text is local when it names no other collection and no relational function is called in it. -/
theorem isLocal_eq_true_iff {text : String} : isLocal text = true ↔
    (∀ name ∈ (references text.toList).map String.ofList, isForeignName name = false) ∧
      callsRelational false text.toList = false := by
  -- Extracting drops what is repeated, and nothing else.
  have names : ∀ name, name ∈ extractFields text ↔
      name ∈ (references text.toList).map String.ofList := fun _ => List.mem_eraseDups
  simp only [isLocal, Bool.and_eq_true, Bool.not_eq_true', List.any_eq_false, names,
    Bool.not_eq_true]

/-- Only a reference to another collection keeps the spelling of a token from being local, unless
the token is a string. -/
theorem Spells.isLocal_iff {cs : List Char} {token : Token} (spelled : Spells cs token)
    (noString : ∀ text, token ≠ .string text) :
    isLocal (String.ofList cs) = true ↔ ∀ collection name, token ≠ .foreign collection name := by
  -- Outside of strings a token spells no call, so that only its reference can be foreign.
  rw [isLocal_eq_true_iff, String.toList_ofList, spelled.references_eq noString,
    and_iff_left (spelled.callsRelational_eq_false noString)]
  constructor
  · rintro plain collection name rfl
    have foreign := (spelled.isForeignName_iff rfl).2 ⟨collection, name, rfl⟩
    cases (plain _ (List.mem_singleton.2 rfl)).symm.trans foreign
  · intro near name refers
    by_contra foreign
    rw [Bool.not_eq_false] at foreign
    obtain ⟨collection, field, same⟩ :=
      (spelled.isForeignName_iff (Option.mem_toList.1 refers)).1 foreign
    exact near collection field same

/-- A text in which no relational function is called outside of strings is local when each of its
pieces is. -/
theorem Cut.isLocal_iff {source : String} {pieces : List Piece} (cut : Cut 0 source.toList pieces)
    (chain : (pieces.map fun piece => piece.token).IsChain MayPrecede) :
    isLocal source = true ↔ ∀ piece ∈ pieces, isLocal (String.ofList piece.spelling) = true := by
  -- References and calls are found piece by piece, in the text as in its spellings.
  simp only [isLocal_eq_true_iff, String.toList_ofList, forall_and]
  rw [cut.references_eq, cut.callsRelational_eq chain, List.any_eq_false]
  simp only [List.map_flatMap, List.mem_flatMap, Bool.not_eq_true]
  refine and_congr_left fun _ => ⟨?_, ?_⟩
  · exact fun plain piece member name among => plain name ⟨piece, member, among⟩
  · rintro plain name ⟨piece, member, among⟩
    exact plain piece member name among

/-- A tree stays local when no field of another collection occurs in it and no relational function
is called in it. -/
def Expr.StaysLocal (e : Expr) : Prop :=
  (∀ collection name, ¬ Occurs (.foreign collection name) e) ∧
    ∀ f args, Occurs (.call f args) e → f.name ∉ relationalFunctions

/-- A tree stays local as soon as no field of another collection occurs in it. -/
theorem Expr.staysLocal_iff {e : Expr} :
    e.StaysLocal ↔ ∀ collection name, ¬ Occurs (.foreign collection name) e :=
  and_iff_left fun f _ _ => f.name_not_mem_relationalFunctions

namespace Formula

/-- A text that compiles is local exactly when its tree stays local and each of its string literals
is local by itself, as if it were a formula. -/
theorem compile_isLocal {source : String} {f : Formula} (compiled : compile source = .ok f) :
    isLocal source = true ↔
      f.expr.StaysLocal ∧ ∀ literal, IsStringLiteral source literal → isLocal literal = true := by
  obtain rfl := compile_eq_ok_iff.1 compiled
  obtain ⟨pieces, cut, outcome⟩ := parse_cut f.parsed
  have chain : (pieces.map fun piece => piece.token).IsChain MayPrecede := by
    rcases outcome with ⟨rfl, -⟩ | derived
    · exact .nil
    · exact derived.isChain
  -- The tree names the other collections that its tokens name, and it calls nothing relational.
  obtain ⟨others, again, -, occurs⟩ := parse_mentions f.parsed
  cases cut.unique again
  rw [cut.isLocal_iff chain, Expr.staysLocal_iff]
  simp only [occurs, List.mem_map, not_exists, not_and]
  constructor
  · intro each
    constructor
    · intro collection name piece member same
      have noString : ∀ text, piece.token ≠ .string text := by
        rw [same]
        exact nofun
      have near := ((cut.spells piece member).isLocal_iff noString).1 (each piece member)
      exact near collection name same
    · rintro literal ⟨others, again, piece, member, -, spelling⟩
      cases cut.unique again
      rw [← String.ofList_toList (s := literal), spelling]
      exact each piece member
  · -- A piece is a string, or spells a reference or nothing that matters.
    rintro ⟨near, literals⟩ piece member
    by_cases quoted : ∃ text, piece.token = .string text
    · exact literals _ ⟨pieces, cut, piece, member, quoted, String.toList_ofList⟩
    · have noString : ∀ text, piece.token ≠ .string text := fun text same => quoted ⟨text, same⟩
      refine ((cut.spells piece member).isLocal_iff noString).2 fun collection name same => ?_
      exact near collection name piece member same

/-- A formula that is a string with a call of a relational function in it. -/
def calling : Formula := ⟨"\"Max (high)\"", .literal (.string "Max (high)"), by cbv⟩

/-- The string literal of the formula is what keeps it from being local. -/
theorem compile_isLocal_calling :
    compile calling.source = .ok calling ∧
      ∃ literal, IsStringLiteral calling.source literal ∧ isLocal literal = false := by
  have compiled : compile calling.source = .ok calling := compile_eq_ok_iff.2 rfl
  refine ⟨compiled, ?_⟩
  by_contra none
  have each : ∀ literal, IsStringLiteral calling.source literal → isLocal literal = true := by
    intro literal stands
    by_contra other
    exact none ⟨literal, stands, by simpa using other⟩
  have stays : calling.expr.StaysLocal := Expr.staysLocal_iff.2 fun _ _ => nofun
  -- The string calls a relational function, as the search by words sees it.
  have far : isLocal calling.source = false := by cbv
  cases far.symm.trans ((compile_isLocal compiled).2 ⟨stays, each⟩)

/-- A tree may stay local when its text is not local. -/
theorem staysLocal_not_isLocal :
    compile calling.source = .ok calling ∧
      ¬ (isLocal calling.source = true ↔ calling.expr.StaysLocal) := by
  -- The tree is a string and stays local, but the text does not.
  refine ⟨compile_eq_ok_iff.2 rfl, fun same => ?_⟩
  have stays : calling.expr.StaysLocal := Expr.staysLocal_iff.2 fun _ _ => nofun
  have far : isLocal calling.source = false := by cbv
  cases far.symm.trans (same.2 stays)

end Formula

end CalcFields
