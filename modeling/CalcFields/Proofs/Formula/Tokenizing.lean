import CalcFields.Proofs.Formula.Lexer

/-!
Tokenizing loses nothing. A text that has tokens is made of their spellings and of blanks between
them, canonical spellings with spaces between them give their tokens back, and a text without tokens
has them up to the place of its fault.
-/

namespace CalcFields

/-- The bytes of a text are added to those counted before it. -/
theorem foldl_utf8Size (cs : List Char) (count : Nat) :
    cs.foldl (fun count c => count + c.utf8Size) count = count + byteCount cs := by
  -- Induction on the characters, with the count so far.
  induction cs generalizing count with
  | nil => rfl
  | cons c cs ih =>
    rw [byteCount, List.foldl_cons, List.foldl_cons, ih, ih (0 + c.utf8Size)]
    omega

/-- The bytes of two texts one after the other add up. -/
theorem byteCount_append (front rest : List Char) :
    byteCount (front ++ rest) = byteCount front + byteCount rest := by
  -- The count goes on from where the first part has left it.
  rw [byteCount, List.foldl_append, foldl_utf8Size]
  rfl

/-- The first character adds its bytes to those of the rest. -/
theorem byteCount_cons (c : Char) (cs : List Char) :
    byteCount (c :: cs) = c.utf8Size + byteCount cs := by
  rw [byteCount, List.foldl_cons, foldl_utf8Size, Nat.zero_add]

/-- The bytes of a string are those of its characters. -/
theorem byteCount_toList (s : String) : byteCount s.toList = s.utf8ByteSize := by
  -- Over lists of characters the bytes add up, which is not so directly over a string.
  have general : ∀ cs : List Char, byteCount cs = (String.ofList cs).utf8ByteSize := by
    intro cs
    induction cs with
    | nil => rfl
    | cons c cs ih =>
      rw [byteCount_cons, ih, String.ofList_cons, String.utf8ByteSize_append,
        String.utf8ByteSize_singleton]
  rw [general, String.ofList_toList]

/-- A blank between tokens takes one byte. -/
theorem utf8Size_of_isGap {c : Char} (blank : isGap c = true) : c.utf8Size = 1 := by
  -- All five blanks are of one byte.
  simp only [isGap, Bool.or_eq_true, beq_iff_eq] at blank
  rcases blank with (((rfl | rfl) | rfl) | rfl) | rfl <;> decide

/-- No text without characters spells a token. -/
theorem Spells.ne_nil {cs : List Char} {token : Token} (spelled : Spells cs token) : cs ≠ [] := by
  -- Every spelling has a character.
  cases spelled with
  | reference => simp
  | string => simp
  | number spelled => exact spelled.ne_nil
  | word => simp
  | symbol listed => rcases mem_symbols_iff.1 listed with ⟨_, rfl, _⟩ | ⟨_, _, rfl, _⟩ <;> simp

/-- Every spelling starts with a visible character. -/
theorem Spells.start_visible {c : Char} {rest : List Char} {token : Token}
    (spelled : Spells (c :: rest) token) : 33 ≤ c.toNat ∧ c.toNat ≤ 126 := by
  -- Marks, digits and letters are visible, and the symbols are looked at one by one.
  cases spelled with
  | reference => decide
  | string => decide
  | number spelled => exact spelled.visible List.mem_cons_self
  | word spelled =>
    have bounds := toNat_of_isNameChar (spelled.named c List.mem_cons_self)
    omega
  | symbol listed =>
    have visible : ∀ entry ∈ symbols,
        entry.1.head?.all (fun c => 33 ≤ c.toNat ∧ c.toNat ≤ 126) = true := by
      decide
    simpa using visible _ listed

/-- A token leaves less than there was. -/
theorem length_rest_lt {c : Char} {rest : List Char} {found : Lexeme}
    (read : lexeme c rest = .ok found) : found.rest.length ≤ rest.length := by
  -- A token takes at least one character.
  obtain ⟨cut, spelled⟩ := lexeme_spells read
  have nonempty := List.length_pos_iff.2 spelled.ne_nil
  have total := congrArg List.length cut
  simp only [List.length_cons, List.length_append] at total
  omega

/-- The lexer takes no less than any spelling of a token at the front. -/
theorem lexeme_longest {c : Char} {rest cs after : List Char} {token : Token} {found : Lexeme}
    (read : lexeme c rest = .ok found) (spelled : Spells cs token)
    (front : c :: rest = cs ++ after) : cs <+: found.spelling := by
  -- The lexer finds what is spelled there, or something longer.
  obtain ⟨other, same, rfl | ⟨d, more, longer, -⟩⟩ := lexeme_of_spells spelled front
  · cases read.symm.trans same
    exact List.prefix_refl cs
  · cases read.symm.trans same
    exact ⟨d :: more, longer.symm⟩

/-- A token is found where it is spelled before a blank or the end of the text. -/
theorem lexeme_before_gap {cs after rest : List Char} {token : Token} {c : Char}
    (spelled : Spells cs token) (front : c :: rest = cs ++ after)
    (ends : ∀ d ∈ after.head?, isGap d = true) : lexeme c rest = .ok ⟨token, cs, after⟩ := by
  obtain ⟨found, read, rfl | ⟨d, more, longer, solid⟩⟩ := lexeme_of_spells spelled front
  · exact read
  · -- A longer token would go on with the blank.
    have cut := (lexeme_spells read).1
    rw [front, longer, List.append_assoc, List.append_cancel_left_eq] at cut
    have blank := ends d (by simp [cut])
    rw [solid] at blank
    cases blank

/-- What follows a token behind its spelling makes no difference when it is cut short. -/
theorem lexeme_shorten {c : Char} {rest shorter before after : List Char} {found : Lexeme}
    (read : lexeme c rest = .ok found) (left : found.rest = before ++ after)
    (front : c :: shorter = found.spelling ++ before) :
    lexeme c shorter = .ok ⟨found.token, found.spelling, before⟩ := by
  obtain ⟨cut, spelled⟩ := lexeme_spells read
  obtain ⟨other, same, rfl | ⟨d, more, longer, -⟩⟩ := lexeme_of_spells spelled front
  · exact same
  · -- A longer token in the shorter text would also stand in the longer one.
    obtain ⟨cutShort, spelledLong⟩ := lexeme_spells same
    have whole : c :: rest = other.spelling ++ (other.rest ++ after) := by
      rw [cut, left, ← List.append_assoc, ← front, cutShort, List.append_assoc]
    have no := (lexeme_longest read spelledLong whole).length_le
    rw [longer, List.length_append, List.length_cons] at no
    omega

/-- A token with its place and its spelling in a text. -/
structure Piece extends Placed where
  spelling : List Char

/-- How the lexer cuts a text up from a byte position on. Blanks are skipped one by one, and what
stands between them is cut into the pieces that the lexer finds at the front. -/
inductive Cut : Nat → List Char → List Piece → Prop where
  | done {position : Nat} : Cut position [] []
  | gap {position : Nat} {c : Char} {rest : List Char} {pieces : List Piece}
      (blank : isGap c = true) (more : Cut (position + 1) rest pieces) :
      Cut position (c :: rest) pieces
  | piece {position : Nat} {c : Char} {rest : List Char} {found : Lexeme} {pieces : List Piece}
      (solid : isGap c = false) (read : lexeme c rest = .ok found)
      (more : Cut (position + byteCount found.spelling) found.rest pieces) :
      Cut position (c :: rest) (⟨⟨found.token, position⟩, found.spelling⟩ :: pieces)

namespace Cut

variable {position : Nat} {c : Char} {cs rest : List Char} {found : Lexeme}
  {pieces others : List Piece}

/-- The end of a text is cut into nothing. -/
theorem nil_iff : Cut position [] pieces ↔ pieces = [] := by
  -- Nothing is left to cut.
  constructor
  · rintro ⟨⟩
    rfl
  · rintro rfl
    exact .done

/-- A blank in front belongs to no piece. -/
theorem gap_iff (blank : isGap c = true) :
    Cut position (c :: rest) pieces ↔ Cut (position + 1) rest pieces := by
  -- No piece starts with a blank.
  refine ⟨fun cut => ?_, .gap blank⟩
  cases cut with
  | gap _ more => exact more
  | piece solid => cases blank.symm.trans solid

/-- What is no blank starts the piece that the lexer finds. -/
theorem piece_iff (solid : isGap c = false) (read : lexeme c rest = .ok found) :
    Cut position (c :: rest) pieces ↔
      ∃ later, Cut (position + byteCount found.spelling) found.rest later ∧
        pieces = ⟨⟨found.token, position⟩, found.spelling⟩ :: later := by
  constructor
  · -- The lexer finds one piece here, so every cut starts with it.
    intro cut
    cases cut with
    | gap blank => cases blank.symm.trans solid
    | piece _ again more =>
      cases read.symm.trans again
      exact ⟨_, more, rfl⟩
  · rintro ⟨later, more, rfl⟩
    exact .piece solid read more

/-- A text is not cut up where the lexer finds nothing. -/
theorem not_of_error {cause : SyntaxError} (solid : isGap c = false)
    (failed : lexeme c rest = .error cause) : ¬ Cut position (c :: rest) pieces := by
  -- Neither a gap nor a piece can stand there.
  intro cut
  cases cut with
  | gap blank => cases blank.symm.trans solid
  | piece _ read => cases failed.symm.trans read

/-- A text is cut up in one way. -/
theorem unique (cut : Cut position cs pieces) (again : Cut position cs others) :
    pieces = others := by
  -- Induction on the first cut, which leaves the second one no choice.
  induction cut generalizing others with
  | done => exact (nil_iff.1 again).symm
  | gap blank _ ih => exact ih ((gap_iff blank).1 again)
  | piece solid read _ ih =>
    obtain ⟨later, more, rfl⟩ := (piece_iff solid read).1 again
    rw [ih more]

end Cut

/-- With enough fuel the lexer gives the tokens of the pieces that it cuts the text into. -/
theorem tokensFrom_eq_ok_iff {fuel position : Nat} {cs : List Char} (enough : cs.length ≤ fuel)
    {tokens : List Placed} :
    tokensFrom position fuel cs = .ok tokens ↔
      ∃ pieces, Cut position cs pieces ∧ tokens = pieces.map Piece.toPlaced := by
  -- Each character that is skipped and each token that is found leaves enough fuel for the rest.
  fun_induction tokensFrom position fuel cs generalizing tokens with
  | case1 => simp [Cut.nil_iff, eq_comm]
  | case2 => simp at enough
  | case3 position fuel c rest blank ih =>
    rw [ih (Nat.le_of_succ_le_succ enough)]
    exact exists_congr fun pieces => and_congr_left fun _ => (Cut.gap_iff blank).symm
  | case4 position fuel c rest solid cause failed =>
    refine ⟨nofun, ?_⟩
    rintro ⟨pieces, cut, -⟩
    exact absurd cut (Cut.not_of_error (by simpa using solid) failed)
  | case5 position fuel c rest solid found read fault failed ih =>
    have enough := (length_rest_lt read).trans (Nat.le_of_succ_le_succ enough)
    refine ⟨nofun, ?_⟩
    rintro ⟨pieces, cut, -⟩
    obtain ⟨later, more, -⟩ := (Cut.piece_iff (by simpa using solid) read).1 cut
    cases failed.symm.trans ((ih enough).2 ⟨later, more, rfl⟩)
  | case6 position fuel c rest solid found read others followed ih =>
    have enough := (length_rest_lt read).trans (Nat.le_of_succ_le_succ enough)
    have solid : isGap c = false := by simpa using solid
    constructor
    · rintro ⟨⟩
      obtain ⟨later, more, rfl⟩ := (ih enough).1 followed
      exact ⟨_, .piece solid read more, rfl⟩
    · rintro ⟨pieces, cut, rfl⟩
      obtain ⟨later, more, rfl⟩ := (Cut.piece_iff solid read).1 cut
      cases followed.symm.trans ((ih enough).2 ⟨later, more, rfl⟩)
      rfl

/-- The tokens of a formula are those of the pieces that the lexer cuts it into. -/
theorem tokenize_eq_ok_iff {formula : String} {tokens : List Placed} :
    tokenize formula = .ok tokens ↔
      ∃ pieces, Cut 0 formula.toList pieces ∧ tokens = pieces.map Piece.toPlaced :=
  tokensFrom_eq_ok_iff (Nat.le_refl _)

/-- Up to its fault a text is cut into pieces, and there is something left behind it. -/
theorem tokensFrom_error {fuel position : Nat} {cs : List Char} {fault : Fault}
    (enough : cs.length ≤ fuel) (failed : tokensFrom position fuel cs = .error fault) :
    ∃ before after pieces, cs = before ++ after ∧ after ≠ [] ∧
      fault.position = position + byteCount before ∧ Cut position before pieces := by
  -- What is cut off in front of the fault stays cut off when the text ends there.
  fun_induction tokensFrom position fuel cs with
  | case1 => cases failed
  | case2 => cases failed
  | case3 position fuel c rest blank ih =>
    obtain ⟨before, after, pieces, rfl, left, place, cut⟩ :=
      ih (Nat.le_of_succ_le_succ enough) failed
    refine ⟨c :: before, after, pieces, rfl, left, ?_, .gap blank cut⟩
    have size : c.utf8Size = 1 := utf8Size_of_isGap blank
    rw [place, byteCount_cons, size, Nat.add_assoc]
  | case4 position fuel c rest =>
    cases failed
    exact ⟨[], c :: rest, [], rfl, by simp, rfl, .done⟩
  | case5 position fuel c rest solid found read fault others ih =>
    cases failed
    have enough := (length_rest_lt read).trans (Nat.le_of_succ_le_succ enough)
    obtain ⟨before, after, pieces, same, left, place, cut⟩ := ih enough others
    obtain ⟨whole, spelled⟩ := lexeme_spells read
    obtain ⟨first, tail, spelling⟩ := List.exists_cons_of_ne_nil spelled.ne_nil
    obtain rfl : c = first := by
      rw [spelling] at whole
      exact (List.cons.inj whole).1
    -- The token in front of the fault is found in the shorter text as well.
    have front : c :: (tail ++ before) = found.spelling ++ before := by rw [spelling]; rfl
    have short := lexeme_shorten read same front
    have piece := Cut.piece (by simpa using solid) short cut
    refine ⟨c :: (tail ++ before), after, _, ?_, left, ?_, piece⟩
    · rw [whole, same, front, List.append_assoc]
    · rw [place, front, byteCount_append, Nat.add_assoc]
  | case6 => cases failed

/-- How the tokens lie in a text from a byte position on. Every character outside the spellings of
the tokens is a blank. -/
inductive Layout : Nat → List Char → List Placed → Prop where
  | done {position : Nat} : Layout position [] []
  | gap {position : Nat} {c : Char} {rest : List Char} {tokens : List Placed}
      (blank : isGap c = true) (more : Layout (position + 1) rest tokens) :
      Layout position (c :: rest) tokens
  | token {position : Nat} {token : Token} {cs rest : List Char} {tokens : List Placed}
      (spelled : Spells cs token) (more : Layout (position + byteCount cs) rest tokens) :
      Layout position (cs ++ rest) (⟨token, position⟩ :: tokens)

/-- The pieces of a text lie in it as its tokens. -/
theorem Cut.layout {position : Nat} {cs : List Char} {pieces : List Piece}
    (cut : Cut position cs pieces) : Layout position cs (pieces.map Piece.toPlaced) := by
  -- Induction on the cut, forgetting what each piece spells.
  induction cut with
  | done => exact .done
  | gap blank _ ih => exact .gap blank ih
  | piece _ read _ ih =>
    obtain ⟨whole, spelled⟩ := lexeme_spells read
    rw [whole]
    exact .token spelled ih

/-- No token of a text lies before its start. -/
theorem Layout.le_position {position : Nat} {cs : List Char} {tokens : List Placed}
    (layout : Layout position cs tokens) : ∀ placed ∈ tokens, position ≤ placed.position := by
  -- Induction on the layout, whose positions only grow.
  induction layout with
  | done => exact nofun
  | gap _ _ ih => exact fun placed member => Nat.le_of_succ_le (ih placed member)
  | token _ _ ih =>
    intro placed member
    rcases List.mem_cons.1 member with rfl | later
    · exact Nat.le_refl _
    · exact (Nat.le_add_right _ _).trans (ih placed later)

/-- The positions of the tokens increase. -/
theorem Layout.pairwise_lt {position : Nat} {cs : List Char} {tokens : List Placed}
    (layout : Layout position cs tokens) :
    tokens.Pairwise fun early late => early.position < late.position := by
  -- Induction on the layout.
  induction layout with
  | done => exact .nil
  | gap _ _ ih => exact ih
  | token spelled more ih =>
    -- The spelling takes at least one byte, and what follows lies behind it.
    obtain ⟨c, cs, rfl⟩ := List.exists_cons_of_ne_nil spelled.ne_nil
    refine .cons (fun placed member => ?_) ih
    have behind := more.le_position placed member
    have wide := c.utf8Size_pos
    rw [byteCount_cons] at behind
    exact Nat.lt_of_lt_of_le (Nat.lt_add_of_pos_right (by omega)) behind

/-- The contents of a string with a backslash before each quote and each backslash. -/
def escaped (text : List Char) : List Char :=
  text.flatMap fun c => if c == '"' || c == '\\' then ['\\', c] else [c]

/-- The canonical spelling of a token. A number is given by a numeral of its own, and a string may
hold any text. -/
inductive Canonical : List Char → Token → Prop where
  | field {name : List Char} (named : isName name = true) :
      Canonical ('{' :: '{' :: name ++ ['}', '}']) (.field (String.ofList name))
  | foreign {collection name : List Char} (collected : isName collection = true)
      (named : isName name = true) :
      Canonical ('{' :: '{' :: (collection ++ '.' :: name) ++ ['}', '}'])
        (.foreign (String.ofList collection) (String.ofList name))
  | string (text : List Char) :
      Canonical ('"' :: escaped text ++ ['"']) (.string (String.ofList text))
  | number {cs : List Char} (spelled : SpellsNumeral cs) : Canonical cs (.number (numeralValue cs))
  | word {first : Char} {rest : List Char} (spelled : IsWord first rest) :
      Canonical (first :: rest) (.word (String.ofList (first :: rest)))
  | symbol {cs : List Char} {token : Token} (listed : (cs, token) ∈ canonicalSymbols) :
      Canonical cs token

/-- Escaping a text spells it. -/
theorem spellsContents_escaped (text : List Char) : SpellsContents (escaped text) text := by
  -- Induction on the characters of the text.
  induction text with
  | nil => exact .nil
  | cons c text ih =>
    rw [escaped, List.flatMap_cons]
    split
    · rename_i special
      -- Behind a backslash a quote and a backslash stand for themselves.
      have same : unescaped c = c := by
        simp only [Bool.or_eq_true, beq_iff_eq] at special
        rcases special with rfl | rfl <;> rfl
      have spelled := SpellsContents.escape (c := c) ih
      rw [same] at spelled
      exact spelled
    · rename_i plain
      simp only [Bool.or_eq_true, beq_iff_eq, not_or] at plain
      exact .plain plain.1 plain.2 ih

/-- A canonical spelling is a spelling. -/
theorem Canonical.spells {cs : List Char} {token : Token} (canonical : Canonical cs token) :
    Spells cs token := by
  -- A canonical reference has no blanks in its braces.
  have bare : ∀ {body : List Char} {token : Token}, Refers body token →
      Spells ('{' :: '{' :: body ++ ['}', '}']) token := by
    intro body token refers
    have none : ∀ c ∈ ([] : List Char), isBlank c = true := nofun
    simpa using Spells.reference none none refers
  cases canonical with
  | field named => exact bare (.field named)
  | foreign collected named => exact bare (.foreign collected named)
  | string text => exact .string (spellsContents_escaped text)
  | number spelled => exact .number spelled
  | word spelled => exact .word spelled
  | symbol listed => exact .symbol (List.mem_append_left _ listed)

/-- Where the tokens lie whose spellings are joined by single spaces. -/
def places (position : Nat) : List (String × Token) → List Placed
  | [] => []
  | (spelling, token) :: rest =>
    ⟨token, position⟩ :: places (position + spelling.utf8ByteSize + 1) rest

/-- A token in front of a blank or of the end of the text is a piece of it. -/
theorem Spells.cut {position : Nat} {cs after : List Char} {token : Token} {pieces : List Piece}
    (spelled : Spells cs token) (ends : ∀ d ∈ after.head?, isGap d = true)
    (more : Cut (position + byteCount cs) after pieces) :
    Cut position (cs ++ after) (⟨⟨token, position⟩, cs⟩ :: pieces) := by
  obtain ⟨c, rest, rfl⟩ := List.exists_cons_of_ne_nil spelled.ne_nil
  exact .piece (isGap_of_visible spelled.start_visible.1) (lexeme_before_gap spelled rfl ends) more

/-- Spellings with single spaces between them are cut apart at the spaces. -/
theorem cut_places {items : List (String × Token)}
    (spelled : ∀ item ∈ items, Spells item.1.toList item.2) (position : Nat) :
    ∃ pieces, Cut position (" ".intercalate (items.map Prod.fst)).toList pieces ∧
      places position items = pieces.map Piece.toPlaced ∧
      items = pieces.map fun piece => (String.ofList piece.spelling, piece.token) := by
  -- Induction on the items, each of which starts behind the one before and a space.
  simp only [String.toList_intercalate, List.map_map]
  induction items generalizing position with
  | nil => exact ⟨[], .done, rfl, rfl⟩
  | cons item items ih =>
    obtain ⟨first, others⟩ := List.forall_mem_cons.1 spelled
    obtain ⟨pieces, cut, placed, same⟩ := ih others (position + item.1.utf8ByteSize + 1)
    refine ⟨⟨⟨item.2, position⟩, item.1.toList⟩ :: pieces, ?_, congrArg (_ :: ·) placed, ?_⟩
    · rw [← byteCount_toList] at cut
      cases items with
      | nil =>
        -- The last token ends with the text.
        cases cut
        have alone : Cut position (item.1.toList ++ []) [⟨⟨item.2, position⟩, item.1.toList⟩] :=
          first.cut (by simp) .done
        simpa using alone
      | cons next items =>
        rw [List.map_cons, List.map_cons, List.intercalate_cons_cons, List.append_assoc]
        refine first.cut ?_ (.gap rfl cut)
        rintro d ⟨⟩
        rfl
    · rw [List.map_cons, String.ofList_toList, ← same]

/-- A text that fails to have tokens has them up to its fault, and the fault lies before its end. -/
theorem tokenize_error {formula : String} {fault : Fault}
    (failed : tokenize formula = .error fault) :
    ∃ before after : String, formula = before ++ after ∧ after ≠ "" ∧
      fault.position = before.utf8ByteSize ∧ ∃ tokens, tokenize before = .ok tokens := by
  obtain ⟨before, after, pieces, whole, left, place, cut⟩ := tokensFrom_error (Nat.le_refl _) failed
  refine ⟨String.ofList before, String.ofList after, ?_, ?_, ?_, pieces.map Piece.toPlaced, ?_⟩
  · rw [← String.ofList_append, ← whole, String.ofList_toList]
  · rintro empty
    exact left (by simpa using congrArg String.toList empty)
  · rw [place, ← byteCount_toList, String.toList_ofList, Nat.zero_add]
  · exact tokenize_eq_ok_iff.2 ⟨pieces, by rwa [String.toList_ofList], rfl⟩

/-- Tokenizing loses nothing. Canonical spellings with single spaces between them give back their
tokens where they stand. A text with tokens is made of their spellings and of blanks, and the
positions of the tokens increase. A text without tokens has a fault at a place between two of its
characters or at its start, up to which it has tokens. -/
theorem tokenize_lossless :
    (∀ items : List (String × Token), (∀ item ∈ items, Canonical item.1.toList item.2) →
      tokenize (" ".intercalate (items.map Prod.fst)) = .ok (places 0 items)) ∧
    (∀ (formula : String) (tokens : List Placed), tokenize formula = .ok tokens →
      Layout 0 formula.toList tokens ∧
        tokens.Pairwise fun early late => early.position < late.position) ∧
    ∀ (formula : String) (fault : Fault), tokenize formula = .error fault →
      ∃ before after : String, formula = before ++ after ∧ after ≠ "" ∧
        fault.position = before.utf8ByteSize ∧ ∃ tokens, tokenize before = .ok tokens := by
  refine ⟨fun items canonical => ?_, fun formula tokens read => ?_, fun _ _ => tokenize_error⟩
  · -- What is joined by spaces is cut at them.
    obtain ⟨pieces, cut, placed, -⟩ :=
      cut_places (fun item member => (canonical item member).spells) 0
    exact tokenize_eq_ok_iff.2 ⟨pieces, cut, placed⟩
  · obtain ⟨pieces, cut, rfl⟩ := tokenize_eq_ok_iff.1 read
    exact ⟨cut.layout, cut.layout.pairwise_lt⟩

/-- Tokens with their canonical spellings, one of them a string with an escaped quote. -/
def quotedItems : List (String × Token) := [
  ("\x7b\x7bnet\x7d\x7d", .field "net"), ("<=", .lessEqual),
  ("\x7b\x7brates.vat\x7d\x7d", .foreign "rates" "vat"), ("AND", .word "AND"),
  ("\"\\\"é\"", .string "\"é")]

/-- The spellings are canonical. -/
theorem canonical_quotedItems : ∀ item ∈ quotedItems, Canonical item.1.toList item.2 := by
  -- Each of the items is written in its one canonical way.
  simp only [quotedItems, List.forall_mem_cons, List.not_mem_nil, false_implies, implies_true,
    and_true]
  refine ⟨?_, ?_, ?_, ?_, ?_⟩
  · have named : isName ['n', 'e', 't'] = true := by decide
    simpa using Canonical.field named
  · have listed : (['<', '='], Token.lessEqual) ∈ canonicalSymbols := by simp [canonicalSymbols]
    simpa using Canonical.symbol listed
  · have collected : isName ['r', 'a', 't', 'e', 's'] = true := by decide
    have named : isName ['v', 'a', 't'] = true := by decide
    simpa using Canonical.foreign collected named
  · have word : IsWord 'A' ['N', 'D'] := ⟨by decide, List.all_eq_true.1 (by decide)⟩
    simpa using Canonical.word word
  · simpa [escaped] using Canonical.string ['"', 'é']

/-- The tokens are found in their spellings, and a text with an ampersand has tokens up to it. -/
theorem tokenize_lossless_quotedItems :
    tokenize (" ".intercalate (quotedItems.map Prod.fst)) = .ok (places 0 quotedItems) ∧
      Layout 0 (" ".intercalate (quotedItems.map Prod.fst)).toList (places 0 quotedItems) ∧
      ∃ before after : String, "net & tax" = before ++ after ∧ after ≠ "" ∧
        4 = before.utf8ByteSize ∧ ∃ tokens, tokenize before = .ok tokens := by
  -- The text that fails does so at a character that starts no token.
  obtain ⟨joined, lies, fails⟩ := tokenize_lossless
  have read := joined quotedItems canonical_quotedItems
  exact ⟨read, (lies _ _ read).1, fails "net & tax" ⟨4, .unexpectedChar '&'⟩ (by cbv)⟩

end CalcFields
