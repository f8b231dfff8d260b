import CalcFields.Proofs.Formula.Grammar

/-!
The parser accepts exactly what the grammar derives. An expression is parsed as far as its
derivation reaches whenever the next token does not go on with it, so that no list of tokens has two
trees.
-/

namespace CalcFields

/-- A word is an operator only at the level of its own name. -/
theorem operator?_of_isWord {token : Token} {word : String} (named : token.isWord word = true)
    {level : Level} (noAnd : level = .and → word ≠ "AND") (noOr : level = .or → word ≠ "OR") :
    token.operator? level = none := by
  -- Two words are operators, and this is another one.
  cases token with
  | word name =>
    have same : Function.capitals name = word := by simpa [Token.isWord] using named
    cases level with
    | and => simp [Token.operator?, Token.isWord, same, noAnd rfl]
    | or => simp [Token.operator?, Token.isWord, same, noOr rfl]
    | _ => rfl
  | _ => cases named

/-- An operator of a level is none of a tighter one. -/
theorem operator?_tighter {token : Token} {level inner : Level} {op : BinaryOp}
    (known : token.operator? level = some op) (tighter : inner.height < level.height) :
    token.operator? inner = none := by
  unfold Token.operator? at known
  split at known
  -- The words OR and AND have one level each.
  · split at known
    · rename_i named
      refine operator?_of_isWord named (fun _ => by decide) ?_
      rintro rfl
      exact absurd tighter (by decide)
    · cases known
  · split at known
    · rename_i named
      refine operator?_of_isWord named ?_ (fun _ => by decide)
      rintro rfl
      exact absurd tighter (by decide)
    · cases known
  -- So does every symbol.
  all_goals cases known
  all_goals cases inner <;> first | rfl | exact absurd tighter (by decide)

/-- Only five levels have operators, and each of them has a tighter level. -/
theorem Level.tighter_height_lt {level : Level} {token : Token} {op : BinaryOp}
    (known : token.operator? level = some op) : level.tighter.height < level.height := by
  -- There is no operator at the tightest level.
  cases level with
  | primary => cases known
  | _ => decide

/-- The next token ends an expression of a level: it is no operator of that level or of a tighter
one, and it opens no parenthesis. -/
def Ends (level : Level) (rest : List Placed) : Prop :=
  ∀ next ∈ rest.head?, next.token.isOpening = false ∧
    ∀ inner : Level, inner.height ≤ level.height → next.token.operator? inner = none

namespace Ends

/-- The end of the tokens ends every expression. -/
theorem nil (level : Level) : Ends level [] :=
  fun _ member => nomatch member

/-- What ends an expression also ends its last operand. -/
theorem tighten {level : Level} {rest : List Placed} (ends : Ends level rest) :
    Ends level.tighter rest := by
  -- Whatever no looser level goes on with, a tighter one does not either.
  intro next member
  obtain ⟨shut, plain⟩ := ends next member
  refine ⟨shut, fun inner low => plain inner (Nat.le_trans low ?_)⟩
  cases level <;> decide

/-- A closing parenthesis ends every expression. -/
theorem closing (level : Level) (position : Nat) (rest : List Placed) :
    Ends level (⟨.closing, position⟩ :: rest) := by
  -- A closing parenthesis is no operator at any level.
  rintro next ⟨⟩
  exact ⟨rfl, fun inner _ => by cases inner <;> rfl⟩

/-- A comma ends every expression. -/
theorem comma (level : Level) (position : Nat) (rest : List Placed) :
    Ends level (⟨.comma, position⟩ :: rest) := by
  -- A comma is no operator at any level either.
  rintro next ⟨⟩
  exact ⟨rfl, fun inner _ => by cases inner <;> rfl⟩

/-- An operator of a level ends its left operand. -/
theorem operator {level : Level} {op : BinaryOp} {next : Placed} {rest : List Placed}
    (known : next.token.operator? level = some op) : Ends level.tighter (next :: rest) := by
  -- An operator of this level ends every tighter one.
  rintro next ⟨⟩
  refine ⟨isOpening_of_operator? known, fun inner low => operator?_tighter known ?_⟩
  exact Nat.lt_of_le_of_lt low (Level.tighter_height_lt known)

end Ends

/-- One expression of a level is parsed up to a rest. -/
def Parses (stop : Nat) (level : Level) (tokens : List Placed) (e : Expr) (rest : List Placed) :
    Prop :=
  ∃ fewer, parseLevel stop level tokens = .ok (e, ⟨rest, fewer⟩)

/-- The operators of a level go on with a whole so far up to a rest. -/
def Chains (stop : Nat) (level : Level) (left : Expr) (tokens : List Placed) (e : Expr)
    (rest : List Placed) : Prop :=
  ∃ noMore, parseChain stop level left tokens = .ok (e, ⟨rest, noMore⟩)

/-- The arguments of a call are parsed up to a rest. -/
def ParsesArguments (stop : Nat) (tokens : List Placed) (args : List Expr) (rest : List Placed) :
    Prop :=
  ∃ fewer, parseArguments stop tokens = .ok (args, ⟨rest, fewer⟩)

/-- A list of arguments is parsed up to a rest. -/
def ParsesList (stop : Nat) (tokens : List Placed) (args : List Expr) (rest : List Placed) : Prop :=
  ∃ fewer, parseList stop tokens = .ok (args, ⟨rest, fewer⟩)

section

variable {stop : Nat} {level : Level}

namespace Chains

/-- A chain ends where the next token ends the expression. -/
theorem done {e : Expr} {rest : List Placed}
    (plain : ∀ next ∈ rest.head?, next.token.operator? level = none) :
    Chains stop level e rest e rest := by
  cases rest with
  | nil => exact ⟨Nat.le_refl _, by rw [parseChain]⟩
  | cons next tail =>
    refine ⟨Nat.le_refl _, ?_⟩
    -- A chain goes on only where the next token is an operator of its level.
    rw [parseChain]
    split
    · rfl
    · rename_i op known
      rw [plain next rfl] at known
      cases known

/-- An operator and its right operand belong to the chain. -/
theorem more {op : BinaryOp} {next : Placed} {tokens middle rest : List Placed}
    {left right whole : Expr} (known : next.token.operator? level = some op)
    (operand : Parses stop level.tighter tokens right middle)
    (chained : Chains stop level (.binary op left right) middle whole rest) :
    Chains stop level left (next :: tokens) whole rest := by
  -- The chain reads the operator, its operand and what is chained to both.
  obtain ⟨fewer, operand⟩ := operand
  obtain ⟨noMore, chained⟩ := chained
  refine ⟨Nat.le_trans noMore (Nat.le_of_lt (Nat.lt_succ_of_lt fewer)), ?_⟩
  rw [parseChain]
  split
  · rename_i none
    rw [none] at known
    cases known
  · rename_i op' same
    rw [known] at same
    cases same
    rw [operand]
    simp only [chained]

/-- A level without operators has chains of one operand only. -/
theorem eq_of_plain (plain : ∀ token : Token, token.operator? level = none) {left whole : Expr}
    {rest last : List Placed} (chained : Chains stop level left rest whole last) :
    whole = left ∧ last = rest := by
  -- Without an operator the chain ends where it began.
  obtain ⟨_, chained⟩ := chained
  have finished : Chains stop level left rest left rest := done fun next _ => plain next.token
  obtain ⟨_, single⟩ := finished
  cases single.symm.trans chained
  exact ⟨rfl, rfl⟩

end Chains

namespace Parses

/-- A first operand and the operators that follow it make an expression of their level. -/
theorem chain {tokens middle rest : List Placed} {first whole : Expr}
    (tight : level.tighter.height < level.height) (operators : level ≠ .not ∧ level ≠ .unary)
    (operand : Parses stop level.tighter tokens first middle)
    (chained : Chains stop level first middle whole rest) :
    Parses stop level tokens whole rest := by
  obtain ⟨fewer, operand⟩ := operand
  obtain ⟨noMore, chained⟩ := chained
  refine ⟨Nat.lt_of_le_of_lt noMore fewer, ?_⟩
  -- The levels with binary operators are parsed alike.
  have parsed : parseBinary stop level tokens tight =
      .ok (whole, ⟨rest, Nat.lt_of_le_of_lt noMore fewer⟩) := by
    rw [parseBinary, operand]
    simp only [chained]
  -- The other levels have no operator between operands.
  cases level with
  | primary => exact absurd tight (by decide)
  | not => exact absurd rfl operators.1
  | unary => exact absurd rfl operators.2
  | _ => rw [parseLevel]; exact parsed

/-- A sign that negates makes a negation of its operand. -/
theorem negation {next : Placed} {tokens rest : List Placed} {e : Expr}
    (negated : negates next.token tokens = true) (operand : Parses stop .not tokens e rest) :
    Parses stop .not (next :: tokens) (.unary .not e) rest := by
  obtain ⟨fewer, operand⟩ := operand
  refine ⟨Nat.lt_succ_of_lt fewer, ?_⟩
  rw [parseLevel, if_pos negated, operand]

/-- An expression in front of which nothing negates is a comparison. -/
theorem comparison {next : Placed} {tokens rest : List Placed} {e : Expr}
    (plain : negates next.token tokens = false)
    (parsed : Parses stop .comparison (next :: tokens) e rest) :
    Parses stop .not (next :: tokens) e rest := by
  obtain ⟨fewer, parsed⟩ := parsed
  refine ⟨fewer, ?_⟩
  rw [parseLevel, if_neg (by simp [plain]), parsed]

/-- A sign goes in front of its operand. -/
theorem signed {next : Placed} {tokens rest : List Placed} {op : UnaryOp} {e : Expr}
    (known : next.token.sign? = some op) (operand : Parses stop .unary tokens e rest) :
    Parses stop .unary (next :: tokens) (.unary op e) rest := by
  -- The parser looks for a sign first, and finds it.
  obtain ⟨fewer, operand⟩ := operand
  refine ⟨Nat.lt_succ_of_lt fewer, ?_⟩
  rw [parseLevel]
  split
  · rename_i op' same
    rw [known] at same
    cases same
    simp only [operand]
  · rename_i none
    rw [none] at known
    cases known

/-- An operand without a sign is a primary expression. -/
theorem primary {next : Placed} {tokens rest : List Placed} {e : Expr}
    (plain : next.token.sign? = none) (parsed : Parses stop .primary (next :: tokens) e rest) :
    Parses stop .unary (next :: tokens) e rest := by
  -- Without a sign a primary expression is left.
  obtain ⟨fewer, parsed⟩ := parsed
  refine ⟨fewer, ?_⟩
  rw [parseLevel]
  split
  · rename_i op known
    rw [plain] at known
    cases known
  · exact parsed

end Parses

end

/-- A word that names a constant is not the word NOT. -/
theorem isWord_not_of_constant? {word : String} {v : Value} (known : constant? word = some v) :
    (Token.word word).isWord "NOT" = false := by
  -- The constants are other words.
  unfold constant? at known
  split at known
  all_goals cases known
  all_goals
    rename_i capitals
    simp [Token.isWord, capitals]

/-- A token with a sign is no word. -/
theorem isWord_of_sign? {token : Token} {op : UnaryOp} (known : token.sign? = some op)
    (word : String) : token.isWord word = false := by
  cases token with
  | word => cases known
  | _ => rfl

namespace Derives

/-- An expression of a level below the negations starts with no bang, and with the word NOT only
where that names a call. -/
theorem head_of_height_lt {level : Level} {tokens : List Token} {e : Expr}
    (derived : Derives level tokens e) (tight : level.height < Level.not.height) :
    ∃ first rest, tokens = first :: rest ∧ first ≠ .bang ∧
      (first.isWord "NOT" = true → rest.head?.any Token.isOpening = true) := by
  -- Induction on the derivation; only a call may start with the word NOT.
  induction derived with
  | @tighter level _ _ looser _ ih =>
    refine ih (Nat.lt_of_le_of_lt ?_ tight)
    cases level <;> decide
  | binary _ _ _ first _ =>
    -- The first operand stands in front, with all its tokens.
    obtain ⟨head, rest, rfl, noBang, call⟩ := first tight
    refine ⟨head, _, rfl, noBang, fun named => ?_⟩
    cases rest with
    | nil => cases call named
    | cons next rest => exact call named
  | negation => exact absurd tight (by decide)
  | signed known _ _ =>
    refine ⟨_, _, rfl, ?_, fun named => ?_⟩
    · rintro rfl
      cases known
    · rw [isWord_of_sign? known] at named
      cases named
  | number => exact ⟨_, _, rfl, nofun, nofun⟩
  | string => exact ⟨_, _, rfl, nofun, nofun⟩
  | field => exact ⟨_, _, rfl, nofun, nofun⟩
  | foreign => exact ⟨_, _, rfl, nofun, nofun⟩
  | constant known =>
    refine ⟨_, _, rfl, nofun, fun named => ?_⟩
    rw [isWord_not_of_constant? known] at named
    cases named
  | enclosed => exact ⟨_, _, rfl, nofun, nofun⟩
  | call => exact ⟨_, _, rfl, nofun, fun _ => rfl⟩

/-- Nothing negates in front of an expression of a level below the negations. -/
theorem negates_eq_false {level : Level} {next : Placed} {front rest : List Placed} {e : Expr}
    (derived : Derives level ((next :: front).map Placed.token) e)
    (tight : level.height < Level.not.height) : negates next.token (front ++ rest) = false := by
  -- A first token that negates is the mark or the word.
  obtain ⟨first, others, spelled, noBang, call⟩ := derived.head_of_height_lt tight
  cases spelled
  unfold negates
  split
  · contradiction
  · cases named : next.token.isWord "NOT" with
    | false => rfl
    | true =>
      -- The word NOT is a call here, whose parenthesis is one of the tokens of the expression.
      have opens := call named
      cases front with
      | nil => cases opens
      | cons second front => simpa [opensNext] using opens

/-- What negates an operand also negates it in front of a rest. -/
theorem negates_eq_true {sign : Placed} {front rest : List Placed}
    (nonempty : front.map Placed.token ≠ [])
    (negating : sign.token = .bang ∨ sign.token.isWord "NOT" = true ∧
      (front.map Placed.token).head?.any Token.isOpening = false) :
    CalcFields.negates sign.token (front ++ rest) = true := by
  rcases negating with same | ⟨named, shut⟩
  · rw [same]
    rfl
  · cases front with
    | nil => exact absurd rfl nonempty
    | cons next front =>
      -- What opens next is seen in the first token of the operand, so the rest behind it does not
      -- count.
      have opened : opensNext (next :: front ++ rest) = false := shut
      cases token : sign.token with
      | word name =>
        rw [token] at named
        simp only [CalcFields.negates, named, opened]
        rfl
      | _ => rw [token] at named; cases named

/-- A primary expression starts with no sign. -/
theorem sign?_head {tokens : List Token} {e : Expr} (derived : Derives .primary tokens e)
    {first : Token} {rest : List Token} (spelled : tokens = first :: rest) :
    first.sign? = none := by
  -- No primary expression starts with a sign.
  cases derived with
  | tighter looser _ => exact absurd rfl looser
  | binary operator _ _ => cases operator
  | _ => cases spelled; rfl

end Derives

namespace Parses

variable {stop : Nat}

/-- An expression in parentheses is parsed with them. -/
theorem enclosed {first last : Nat} {tokens rest : List Placed} {e : Expr}
    (inner : Parses stop .or tokens e (⟨.closing, last⟩ :: rest)) :
    Parses stop .primary (⟨.opening, first⟩ :: tokens) e rest := by
  -- The parenthesis is opened, and what is inside ends at the closing one.
  obtain ⟨fewer, inner⟩ := inner
  refine ⟨Nat.lt_succ_of_lt (Nat.lt_of_succ_lt fewer), ?_⟩
  rw [parseLevel, parsePrimary]
  simp only [inner]

/-- A word that names a constant stands for it when no parenthesis follows. -/
theorem constant {position : Nat} {word : String} {v : Value} {rest : List Placed}
    (known : constant? word = some v) (shut : ∀ next ∈ rest.head?, next.token.isOpening = false) :
    Parses stop .primary (⟨.word word, position⟩ :: rest) (.literal v) rest := by
  -- A constant that a parenthesis follows would be read as a call.
  refine ⟨Nat.lt_succ_self _, ?_⟩
  rw [parseLevel, parsePrimary]
  dsimp only
  split
  · cases shut _ rfl
  · simp only [known]

/-- A call is parsed with its arguments. -/
theorem call {first second : Nat} {word : String} {f : Function} {args : List Expr}
    {tokens rest : List Placed} (named : Function.named? word = some f)
    (accepted : f.arity.accepts args.length = true)
    (arguments : ParsesArguments stop tokens args rest) :
    Parses stop .primary (⟨.word word, first⟩ :: ⟨.opening, second⟩ :: tokens) (.call f args)
      rest := by
  -- The name is known and the number of arguments is accepted.
  obtain ⟨fewer, arguments⟩ := arguments
  refine ⟨Nat.lt_succ_of_lt (Nat.lt_succ_of_lt fewer), ?_⟩
  rw [parseLevel, parsePrimary]
  simp only [named, arguments, accepted, if_true]

end Parses

namespace ParsesList

variable {stop : Nat}

/-- A closing parenthesis ends a list with its last argument. -/
theorem last {position : Nat} {tokens rest : List Placed} {arg : Expr}
    (parsed : Parses stop .or tokens arg (⟨.closing, position⟩ :: rest)) :
    ParsesList stop tokens [arg] rest := by
  obtain ⟨fewer, parsed⟩ := parsed
  refine ⟨Nat.lt_of_succ_lt fewer, ?_⟩
  rw [parseList, parsed]

/-- A comma is followed by the other arguments of a list. -/
theorem cons {position : Nat} {tokens middle rest : List Placed} {arg : Expr} {args : List Expr}
    (parsed : Parses stop .or tokens arg (⟨.comma, position⟩ :: middle))
    (others : ParsesList stop middle args rest) : ParsesList stop tokens (arg :: args) rest := by
  -- An argument is followed by a comma and the others.
  obtain ⟨fewer, parsed⟩ := parsed
  obtain ⟨less, others⟩ := others
  refine ⟨Nat.lt_trans less (Nat.lt_of_succ_lt fewer), ?_⟩
  rw [parseList, parsed]
  simp only [others]

end ParsesList

/-- Arguments that do not close at once are a list. -/
theorem ParsesArguments.ofList {stop : Nat} {tokens rest : List Placed} {args : List Expr}
    (shut : ∀ next ∈ tokens.head?, next.token ≠ .closing)
    (listed : ParsesList stop tokens args rest) : ParsesArguments stop tokens args rest := by
  -- Arguments that do not close at once are a list.
  obtain ⟨fewer, listed⟩ := listed
  refine ⟨fewer, ?_⟩
  unfold parseArguments
  split
  · exact absurd rfl (shut _ rfl)
  · exact listed

/-- Joined parts start with the first of them. -/
theorem exists_intercalate_cons {α : Type} (separator first : List α) (parts : List (List α)) :
    ∃ tail, separator.intercalate (first :: parts) = first ++ tail := by
  -- Whether a separator follows depends on what comes after the first part.
  cases parts with
  | nil => exact ⟨[], by simp⟩
  | cons second parts => exact ⟨_, by rw [List.intercalate_cons_cons, List.append_assoc]⟩

/-- The parser goes through the tokens of an expression whenever what follows ends its last operand,
and the operators of its level go on from there. -/
def GoesThrough (stop : Nat) (level : Level) (tokens : List Token) (e : Expr) : Prop :=
  ∀ (front rest last : List Placed) (whole : Expr), front.map Placed.token = tokens →
    Ends level.tighter rest → Chains stop level e rest whole last →
      Parses stop level (front ++ rest) whole last

namespace GoesThrough

variable {stop : Nat} {level : Level} {tokens : List Token} {e : Expr}

/-- An expression that is gone through is parsed up to what ends it. -/
theorem parses (through : GoesThrough stop level tokens e) {front rest : List Placed}
    (spelled : front.map Placed.token = tokens) (ends : Ends level rest) :
    Parses stop level (front ++ rest) e rest :=
  -- What goes through ends where no operator of the level follows.
  through front rest rest e spelled ends.tighten
    (.done fun next member => (ends next member).2 level (Nat.le_refl _))

/-- At a level without operators an expression is gone through when it is parsed. -/
theorem of_plain (plain : ∀ token : Token, token.operator? level = none)
    (parsed : ∀ front rest : List Placed, front.map Placed.token = tokens →
      Ends level.tighter rest → Parses stop level (front ++ rest) e rest) :
    GoesThrough stop level tokens e := by
  -- Without operators at the level there is no chain to go through.
  intro front rest last whole spelled ends chained
  obtain ⟨rfl, rfl⟩ := chained.eq_of_plain plain
  exact parsed front last spelled ends

end GoesThrough

section

variable {stop : Nat}

/-- Arguments that the parser goes through one by one are parsed as a list. -/
theorem parsesList {parts : List (List Token × Expr)} (nonempty : parts ≠ [])
    (through : ∀ part ∈ parts, GoesThrough stop .or part.1 part.2)
    {front rest : List Placed}
    (spelled : front.map Placed.token =
      [Token.comma].intercalate (parts.map Prod.fst) ++ [.closing]) :
    ParsesList stop (front ++ rest) (parts.map Prod.snd) rest := by
  -- Induction on the arguments.
  induction parts generalizing front with
  | nil => exact absurd rfl nonempty
  | cons part parts ih =>
    cases parts with
    | nil =>
      -- The closing parenthesis stands behind the one argument.
      obtain ⟨body, shut, rfl, first, shutSpelled⟩ := List.map_eq_append_iff.1 spelled
      obtain ⟨closing, rfl, shutSpelled⟩ := List.map_eq_singleton_iff.1 shutSpelled
      obtain ⟨token, position⟩ := closing
      cases shutSpelled
      rw [List.append_assoc]
      refine .last ((through part List.mem_cons_self).parses ?_ (.closing _ _ _))
      simpa using first
    | cons next parts =>
      -- A comma stands between the first argument and the others.
      rw [List.map_cons, List.map_cons, List.intercalate_cons_cons, List.append_assoc,
        List.append_assoc] at spelled
      obtain ⟨body, behind, rfl, first, comma⟩ := List.map_eq_append_iff.1 spelled
      obtain ⟨⟨token, position⟩, others, rfl, same, later⟩ := List.map_eq_cons_iff.1 comma
      cases same
      rw [List.append_assoc]
      refine .cons ((through part List.mem_cons_self).parses first (.comma _ _ _)) ?_
      exact ih (by simp) (fun part member => through part (List.mem_cons_of_mem _ member)) later

/-- No expression starts with a closing parenthesis. -/
theorem Derives.head?_ne_closing {level : Level} {tokens : List Token} {e : Expr}
    (derived : Derives level tokens e) : tokens.head? ≠ some .closing := by
  -- Induction on the derivation.
  induction derived with
  | tighter _ _ ih => exact ih
  | binary _ first _ ih _ =>
    -- The first operand has tokens of its own, so that its first one is the first of all.
    obtain ⟨token, tokens, rfl⟩ := List.exists_cons_of_ne_nil first.tokens_ne_nil
    exact ih
  | negation negates _ _ =>
    rintro ⟨⟩
    rcases negates with same | named
    · cases same
    · cases named.1
  | signed known _ _ =>
    rintro ⟨⟩
    cases known
  | _ => exact nofun

/-- Arguments that the grammar derives are parsed up to their closing parenthesis, each by
itself. -/
theorem parsesArguments {parts : List (List Token × Expr)}
    (derived : ∀ part ∈ parts, Derives .or part.1 part.2)
    (through : ∀ part ∈ parts, GoesThrough stop .or part.1 part.2)
    {front rest : List Placed}
    (spelled : front.map Placed.token =
      [Token.comma].intercalate (parts.map Prod.fst) ++ [.closing]) :
    ParsesArguments stop (front ++ rest) (parts.map Prod.snd) rest := by
  cases parts with
  | nil =>
    -- Without arguments the closing parenthesis is the only token.
    obtain ⟨⟨token, position⟩, rfl, same⟩ := List.map_eq_singleton_iff.1 spelled
    cases same
    refine ⟨Nat.lt_succ_self _, ?_⟩
    simp only [List.singleton_append]
    rw [parseArguments]
    rfl
  | cons part parts =>
    refine .ofList ?_ (parsesList (List.cons_ne_nil _ _) through spelled)
    -- The first token is that of the first argument, so that it closes nothing.
    have first := derived part List.mem_cons_self
    obtain ⟨tail, joined⟩ := exists_intercalate_cons [Token.comma] part.1 (parts.map Prod.fst)
    rw [List.map_cons, joined, List.append_assoc] at spelled
    obtain ⟨token, tokens, same⟩ := List.exists_cons_of_ne_nil first.tokens_ne_nil
    rw [same, List.cons_append] at spelled
    obtain ⟨next, others, rfl, rfl, -⟩ := List.map_eq_cons_iff.1 spelled
    rintro other ⟨⟩ closing
    exact first.head?_ne_closing (by rw [same, closing]; rfl)

namespace GoesThrough

/-- An expression of the next tighter level is the first operand of a chain. -/
theorem tighter {level : Level} {tokens : List Token} {e : Expr} (looser : level ≠ .primary)
    (derived : Derives level.tighter tokens e) (through : GoesThrough stop level.tighter tokens e) :
    GoesThrough stop level tokens e := by
  intro front rest last whole spelled ends chained
  subst spelled
  have operand : Parses stop level.tighter (front ++ rest) e rest := through.parses rfl ends
  obtain ⟨next, front, rfl⟩ := List.exists_cons_of_ne_nil fun none : front = [] =>
    derived.tokens_ne_nil (by rw [none, List.map_nil])
  cases level with
  | primary => exact absurd rfl looser
  -- Negations and signs have no operators between operands, and none stands in front here.
  | not =>
    obtain ⟨rfl, rfl⟩ := chained.eq_of_plain fun _ => rfl
    exact .comparison (derived.negates_eq_false (by decide)) operand
  | unary =>
    obtain ⟨rfl, rfl⟩ := chained.eq_of_plain fun _ => rfl
    exact .primary (derived.sign?_head rfl) operand
  -- Every other level goes on with the chain behind its first operand.
  | _ => exact .chain (by decide) (by decide) operand chained

/-- An operator and its right operand belong to the chain behind the left one. -/
theorem binary {level : Level} {op : BinaryOp} {symbol : Token} {before after : List Token}
    {left right : Expr} (known : symbol.operator? level = some op)
    (first : GoesThrough stop level before left)
    (second : GoesThrough stop level.tighter after right) :
    GoesThrough stop level (before ++ symbol :: after) (.binary op left right) := by
  intro front rest last whole spelled ends chained
  obtain ⟨before, behind, rfl, rfl, split⟩ := List.map_eq_append_iff.1 spelled
  obtain ⟨symbol, after, rfl, rfl, rfl⟩ := List.map_eq_cons_iff.1 split
  rw [List.append_assoc, List.cons_append]
  -- The left operand ends before the operator, from where the chain goes on.
  exact first _ _ _ _ rfl (.operator known) (.more known (second.parses rfl ends) chained)

/-- A token that is an expression by itself is gone through, whatever follows it. -/
theorem single {token : Token} {e : Expr} (parsed : ∀ (position : Nat) (rest : List Placed),
      Parses stop .primary (⟨token, position⟩ :: rest) e rest) :
    GoesThrough stop .primary [token] e := by
  -- A single token is a primary of its own.
  refine of_plain (fun _ => rfl) fun front rest spelled _ => ?_
  obtain ⟨⟨token, position⟩, rfl, rfl⟩ := List.map_eq_singleton_iff.1 spelled
  exact parsed position rest

/-- A call goes through its arguments up to the closing parenthesis. -/
theorem call {word : String} {f : Function} {parts : List (List Token × Expr)}
    (named : Function.named? word = some f) (accepted : f.arity.accepts parts.length = true)
    (derived : ∀ part ∈ parts, Derives .or part.1 part.2)
    (through : ∀ part ∈ parts, GoesThrough stop .or part.1 part.2) :
    GoesThrough stop .primary
      (.word word :: .opening :: [Token.comma].intercalate (parts.map Prod.fst) ++ [.closing])
      (.call f (parts.map Prod.snd)) := by
  -- The word, the parenthesis and the arguments stand one behind the other.
  refine of_plain (fun _ => rfl) fun front rest spelled _ => ?_
  obtain ⟨⟨token, first⟩, front, rfl, rfl, behind⟩ := List.map_eq_cons_iff.1 spelled
  obtain ⟨⟨token, second⟩, front, rfl, rfl, inside⟩ := List.map_eq_cons_iff.1 behind
  refine .call named ?_ (parsesArguments derived through inside)
  rw [List.length_map]
  exact accepted

end GoesThrough

/-- The parser goes through every expression that the grammar derives. -/
theorem Derives.goesThrough {level : Level} {tokens : List Token} {e : Expr}
    (derived : Derives level tokens e) : GoesThrough stop level tokens e := by
  -- Induction on the derivation: each rule has its lemma above.
  induction derived with
  | tighter looser derived through => exact .tighter looser derived through
  | binary known _ _ first second => exact .binary known first second
  | negation sign derived through =>
    refine .of_plain (fun _ => rfl) fun front rest spelled ends => ?_
    obtain ⟨next, front, rfl, rfl, rfl⟩ := List.map_eq_cons_iff.1 spelled
    refine .negation (negates_eq_true derived.tokens_ne_nil sign) ?_
    exact through _ _ _ _ rfl ends (.done fun _ _ => rfl)
  | signed known _ through =>
    refine .of_plain (fun _ => rfl) fun front rest spelled ends => ?_
    obtain ⟨next, front, rfl, rfl, rfl⟩ := List.map_eq_cons_iff.1 spelled
    exact .signed known (through _ _ _ _ rfl ends (.done fun _ _ => rfl))
  | constant known =>
    refine .of_plain (fun _ => rfl) fun front rest spelled ends => ?_
    obtain ⟨⟨token, position⟩, rfl, rfl⟩ := List.map_eq_singleton_iff.1 spelled
    exact .constant known fun next member => (ends next member).1
  | enclosed _ through =>
    refine .of_plain (fun _ => rfl) fun front rest spelled _ => ?_
    obtain ⟨opened, shut, rfl, body, close⟩ := List.map_eq_append_iff.1 spelled
    obtain ⟨⟨token, first⟩, front, rfl, rfl, rfl⟩ := List.map_eq_cons_iff.1 body
    obtain ⟨⟨token, second⟩, rfl, rfl⟩ := List.map_eq_singleton_iff.1 close
    rw [List.append_assoc]
    exact .enclosed (through.parses rfl (.closing _ _ _))
  | call named accepted derived through => exact .call named accepted derived through
  -- The other expressions are one token each.
  | number => exact .single fun _ _ => ⟨Nat.lt_succ_self _, by rw [parseLevel, parsePrimary]⟩
  | string => exact .single fun _ _ => ⟨Nat.lt_succ_self _, by rw [parseLevel, parsePrimary]⟩
  | field => exact .single fun _ _ => ⟨Nat.lt_succ_self _, by rw [parseLevel, parsePrimary]⟩
  | foreign => exact .single fun _ _ => ⟨Nat.lt_succ_self _, by rw [parseLevel, parsePrimary]⟩

end

/-- No list of tokens has two trees at one level. -/
theorem Derives.unique {level : Level} {tokens : List Token} {e e' : Expr}
    (first : Derives level tokens e) (second : Derives level tokens e') : e = e' := by
  -- The parser goes through both derivations, and it gives one tree.
  have spelled : (tokens.map fun token => (⟨token, 0⟩ : Placed)).map Placed.token = tokens := by
    simp [Function.comp_def]
  have one : GoesThrough 0 level tokens e := first.goesThrough
  have other : GoesThrough 0 level tokens e' := second.goesThrough
  obtain ⟨_, parsed⟩ := one.parses spelled (.nil level)
  obtain ⟨_, again⟩ := other.parses spelled (.nil level)
  cases parsed.symm.trans again
  rfl

/-- The parser accepts every list of tokens that the grammar derives. -/
theorem parseTokens_of_derives {stop : Nat} {tokens : List Placed} {e : Expr}
    (derived : Derives .or (tokens.map Placed.token) e) : parseTokens stop tokens = .ok e := by
  -- A derivation of all the tokens leaves none behind.
  have through : GoesThrough stop .or (tokens.map Placed.token) e := derived.goesThrough
  have whole := through.parses rfl (.nil .or)
  rw [List.append_nil] at whole
  obtain ⟨_, parsed⟩ := whole
  rw [parseTokens, parsed]

/-- The parser decides the grammar: it always ends with a tree or a fault, with a tree exactly when
the grammar derives that tree from the tokens, and with a fault exactly when it derives none. A
level of the grammar derives at most one tree from a list of tokens. -/
theorem parseTokens_decides_derives (stop : Nat) (tokens : List Placed) :
    (∀ e, parseTokens stop tokens = .ok e ↔ Derives .or (tokens.map Placed.token) e) ∧
      ((∃ fault, parseTokens stop tokens = .error fault) ↔
        ∀ e, ¬ Derives .or (tokens.map Placed.token) e) ∧
      ∀ level e e', Derives level (tokens.map Placed.token) e →
        Derives level (tokens.map Placed.token) e' → e = e' := by
  refine ⟨fun e => ⟨parseTokens_derives, parseTokens_of_derives⟩, ⟨?_, ?_⟩,
    fun _ _ _ => Derives.unique⟩
  · -- What is derived is parsed, so a failure leaves nothing derived.
    rintro ⟨fault, failed⟩ e derived
    rw [parseTokens_of_derives derived] at failed
    cases failed
  · intro underived
    cases outcome : parseTokens stop tokens with
    | error fault => exact ⟨fault, rfl⟩
    | ok e => exact absurd (parseTokens_derives outcome) (underived e)

end CalcFields
