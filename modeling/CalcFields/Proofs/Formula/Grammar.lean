import CalcFields.Formula.Parser

/-!
The grammar of formulas by precedence levels, and what holds of every tree that it derives. The
parser derives all that it accepts.
-/

namespace CalcFields

namespace Token

/-- The token refers to a field, of the same record or of another collection. -/
def isReference : Token → Bool
  | .field _ => true
  | .foreign _ _ => true
  | _ => false

/-- The field of the same record that a token refers to. -/
def fieldName? : Token → Option String
  | .field name => some name
  | _ => none

/-- Only a reference names a field. -/
theorem fieldName?_eq_none {token : Token} (plain : token.isReference = false) :
    token.fieldName? = none := by
  cases token with
  | field => cases plain
  | _ => rfl

/-- No operator is a reference. -/
theorem isReference_of_operator? {token : Token} {level : Level} {op : BinaryOp}
    (known : token.operator? level = some op) : token.isReference = false := by
  -- No level has a reference for its operator.
  cases token with
  | field => cases level <;> cases known
  | foreign => cases level <;> cases known
  | _ => rfl

/-- What negates is no reference. -/
theorem isReference_of_negates {token : Token} {apart : Prop}
    (negates : token = .bang ∨ token.isWord "NOT" = true ∧ apart) : token.isReference = false := by
  -- What negates is a mark or a word.
  rcases negates with rfl | ⟨named, -⟩
  · rfl
  · cases token with
    | word => rfl
    | _ => cases named

/-- No sign is a reference. -/
theorem isReference_of_sign? {token : Token} {op : UnaryOp} (known : token.sign? = some op) :
    token.isReference = false := by
  -- A sign is a mark.
  cases token with
  | field => cases known
  | foreign => cases known
  | _ => rfl

end Token

/-- No operator opens a parenthesis. -/
theorem isOpening_of_operator? {token : Token} {level : Level} {op : BinaryOp}
    (known : token.operator? level = some op) : token.isOpening = false := by
  cases token with
  | opening => cases level <;> cases known
  | _ => rfl

/-- The tokens that a level of the grammar derives, with the tree that they stand for. -/
inductive Derives : Level → List Token → Expr → Prop where
  /-- An expression of the next tighter level. -/
  | tighter {level : Level} {tokens : List Token} {e : Expr} (looser : level ≠ .primary)
      (whole : Derives level.tighter tokens e) : Derives level tokens e
  /-- An operator takes an operand of its own level on its left and a tighter one on its right. -/
  | binary {level : Level} {op : BinaryOp} {symbol : Token} {before after : List Token}
      {left right : Expr} (operator : symbol.operator? level = some op)
      (first : Derives level before left) (second : Derives level.tighter after right) :
      Derives level (before ++ symbol :: after) (.binary op left right)
  /-- A bang negates, and so does the word NOT unless an opening parenthesis follows. -/
  | negation {sign : Token} {tokens : List Token} {e : Expr}
      (negates : sign = .bang ∨ sign.isWord "NOT" = true ∧ tokens.head?.any Token.isOpening = false)
      (operand : Derives .not tokens e) : Derives .not (sign :: tokens) (.unary .not e)
  /-- A sign in front of an operand. -/
  | signed {sign : Token} {op : UnaryOp} {tokens : List Token} {e : Expr}
      (known : sign.sign? = some op) (operand : Derives .unary tokens e) :
      Derives .unary (sign :: tokens) (.unary op e)
  | number (x : Float) : Derives .primary [.number x] (.literal (.number x))
  | string (s : String) : Derives .primary [.string s] (.literal (.string s))
  | field (name : String) : Derives .primary [.field name] (.field name)
  | foreign (collection name : String) :
      Derives .primary [.foreign collection name] (.foreign collection name)
  /-- A word names a constant when no parenthesis follows. -/
  | constant {word : String} {v : Value} (known : constant? word = some v) :
      Derives .primary [.word word] (.literal v)
  /-- An expression in parentheses. -/
  | enclosed {tokens : List Token} {e : Expr} (inner : Derives .or tokens e) :
      Derives .primary (.opening :: tokens ++ [.closing]) e
  /-- A call of a function with arguments between commas, in a number that it takes. -/
  | call {word : String} {f : Function} {parts : List (List Token × Expr)}
      (named : Function.named? word = some f) (accepted : f.arity.accepts parts.length = true)
      (derived : ∀ part ∈ parts, Derives .or part.1 part.2) :
      Derives .primary
        (.word word :: .opening :: [Token.comma].intercalate (parts.map Prod.fst) ++ [.closing])
        (.call f (parts.map Prod.snd))

namespace Derives

/-- No level derives an empty list of tokens. -/
theorem tokens_ne_nil {level : Level} {tokens : List Token} {e : Expr}
    (derived : Derives level tokens e) : tokens ≠ [] := by
  -- Every rule but the first puts a token of its own.
  induction derived with
  | tighter _ _ ih => exact ih
  | binary _ _ _ _ _ => simp
  | negation _ _ _ => simp
  | signed _ _ _ => simp
  | number => simp
  | string => simp
  | field => simp
  | foreign => simp
  | constant => simp
  | enclosed => simp
  | call => simp

/-- What is read off the tokens joined by a separator is read off the parts, when nothing is read
off the separator. -/
theorem filterMap_intercalate {α β : Type} {read : α → Option β} {separator : α}
    (unread : read separator = none) (parts : List (List α)) :
    ([separator].intercalate parts).filterMap read = parts.flatMap (List.filterMap read) := by
  -- Induction on the parts.
  induction parts with
  | nil => rfl
  | cons first rest ih =>
    -- The separator stands only between two parts, so that the last one is apart.
    cases rest with
    | nil => simp
    | cons second rest =>
      rw [List.intercalate_cons_cons, List.filterMap_append, List.filterMap_append, ih]
      simp [unread]

/-- A list of trees names what its trees name one after another. -/
theorem mentionsAll_eq_flatMap (args : List Expr) :
    Expr.mentionsAll args = args.flatMap Expr.mentions := by
  -- Induction on the arguments.
  induction args with
  | nil => rfl
  | cons arg rest ih => rw [Expr.mentionsAll, ih, List.flatMap_cons]

/-- A derived tree names the fields among its tokens, in the same order and as often. -/
theorem mentions_eq {level : Level} {tokens : List Token} {e : Expr}
    (derived : Derives level tokens e) : e.mentions = tokens.filterMap Token.fieldName? := by
  -- A rule puts the tokens of its parts side by side, and only the field rule names a field itself.
  induction derived with
  | tighter _ _ ih => exact ih
  | binary operator _ _ firstNames secondNames =>
    have mark := Token.fieldName?_eq_none (Token.isReference_of_operator? operator)
    rw [Expr.mentions, firstNames, secondNames, List.filterMap_append,
      List.filterMap_cons_none mark]
  | negation negates _ ih =>
    have mark := Token.fieldName?_eq_none (Token.isReference_of_negates negates)
    rw [Expr.mentions, ih, List.filterMap_cons_none mark]
  | signed known _ ih =>
    have mark := Token.fieldName?_eq_none (Token.isReference_of_sign? known)
    rw [Expr.mentions, ih, List.filterMap_cons_none mark]
  | number => rfl
  | string => rfl
  | field => rfl
  | foreign => rfl
  | constant => rfl
  | enclosed _ ih =>
    rw [ih, List.cons_append, List.filterMap_cons_none rfl, List.filterMap_append,
      List.filterMap_cons_none rfl, List.filterMap_nil, List.append_nil]
  | @call word f parts _ _ _ ih =>
    -- The arguments stand between commas, which name nothing.
    have comma : Token.fieldName? .comma = none := rfl
    have joined := filterMap_intercalate comma (parts.map Prod.fst)
    rw [Expr.mentions, mentionsAll_eq_flatMap, List.cons_append, List.cons_append,
      List.filterMap_cons_none rfl, List.filterMap_cons_none rfl, List.filterMap_append, joined,
      List.filterMap_cons_none rfl, List.filterMap_nil, List.append_nil, List.flatMap_map,
      List.flatMap_map, List.flatMap_def, List.flatMap_def, List.map_congr_left ih]

end Derives

/-- What negates an operand in front of a rest also negates it alone. -/
theorem negates_operand {sign : Token} {front rest : List Placed}
    (nonempty : front.map Placed.token ≠ []) (negated : negates sign (front ++ rest) = true) :
    sign = .bang ∨
      sign.isWord "NOT" = true ∧ (front.map Placed.token).head?.any Token.isOpening = false := by
  cases front with
  | nil => exact absurd rfl nonempty
  | cons next front =>
    -- The token behind the sign is the first one of the operand, whatever follows the operand.
    unfold negates at negated
    split at negated
    · exact .inl rfl
    · simp only [Bool.and_eq_true, Bool.not_eq_true'] at negated
      exact .inr negated

/-- A tree stands for the tokens in front of a rest. -/
def DerivesFront (level : Level) (tokens rest : List Placed) (e : Expr) : Prop :=
  ∃ front, tokens = front ++ rest ∧ Derives level (front.map Placed.token) e

namespace DerivesFront

/-- What a tighter level derives, the level itself derives. -/
theorem loosen {level : Level} {tokens rest : List Placed} {e : Expr} (looser : level ≠ .primary)
    (parsed : DerivesFront level.tighter tokens rest e) : DerivesFront level tokens rest e := by
  obtain ⟨front, cut, derived⟩ := parsed
  exact ⟨front, cut, .tighter looser derived⟩

/-- A tree of one token stands in front of the tokens behind it. -/
theorem single {next : Placed} {token : Token} {rest : List Placed} {e : Expr}
    (spelled : next.token = token) (derived : Derives .primary [token] e) :
    DerivesFront .primary (next :: rest) rest e := by
  -- One argument ends at the closing parenthesis.
  refine ⟨[next], rfl, ?_⟩
  rw [List.map_singleton, spelled]
  exact derived

/-- A sign stands in front of its operand. -/
theorem signed {next : Placed} {op : UnaryOp} {tail rest : List Placed} {e : Expr}
    (known : next.token.sign? = some op) (operand : DerivesFront .unary tail rest e) :
    DerivesFront .unary (next :: tail) rest (.unary op e) := by
  obtain ⟨front, cut, derived⟩ := operand
  exact ⟨next :: front, congrArg (next :: ·) cut, .signed known derived⟩

/-- What negates stands in front of its operand. -/
theorem negation {next : Placed} {tail rest : List Placed} {e : Expr}
    (negated : negates next.token tail = true) (operand : DerivesFront .not tail rest e) :
    DerivesFront .not (next :: tail) rest (.unary .not e) := by
  -- The sign is put in front of the operand's tokens.
  obtain ⟨front, cut, derived⟩ := operand
  rw [cut] at negated
  refine ⟨next :: front, congrArg (next :: ·) cut, ?_⟩
  exact .negation (negates_operand derived.tokens_ne_nil negated) derived

/-- An expression stands between parentheses. -/
theorem enclosed {next : Placed} {position : Nat} {tail rest : List Placed} {e : Expr}
    (opens : next.token = .opening)
    (inner : DerivesFront .or tail (⟨.closing, position⟩ :: rest) e) :
    DerivesFront .primary (next :: tail) rest e := by
  -- The parentheses are put around the tokens inside.
  obtain ⟨front, cut, derived⟩ := inner
  refine ⟨next :: front ++ [⟨.closing, position⟩], ?_, ?_⟩
  · simpa using cut
  · rw [List.map_append, List.map_cons, opens]
    exact .enclosed derived

end DerivesFront

/-- Arguments stand for the tokens in front of a rest, up to their closing parenthesis. -/
def DerivesArguments (tokens rest : List Placed) (args : List Expr) : Prop :=
  ∃ parts : List (List Token × Expr), args = parts.map Prod.snd ∧
    (∀ part ∈ parts, Derives .or part.1 part.2) ∧
    ∃ front, tokens = front ++ rest ∧
      front.map Placed.token = [Token.comma].intercalate (parts.map Prod.fst) ++ [.closing]

namespace DerivesArguments

variable {position : Nat} {tokens others rest : List Placed} {e : Expr} {args : List Expr}

/-- A closing parenthesis at once stands for no arguments. -/
theorem nil : DerivesArguments (⟨.closing, position⟩ :: rest) rest [] :=
  ⟨[], rfl, List.forall_mem_nil _, [⟨.closing, position⟩], rfl, rfl⟩

/-- An argument that a closing parenthesis follows is the only one. -/
theorem single (only : DerivesFront .or tokens (⟨.closing, position⟩ :: rest) e) :
    DerivesArguments tokens rest [e] := by
  obtain ⟨front, cut, derived⟩ := only
  refine ⟨[(front.map Placed.token, e)], rfl, by simpa using derived,
    front ++ [⟨.closing, position⟩], ?_, ?_⟩
  · simpa using cut
  · simp

/-- An argument that a comma follows comes before the others, of which there is at least one. -/
theorem cons (first : DerivesFront .or tokens (⟨.comma, position⟩ :: others) e)
    (nonempty : args ≠ []) (derived : DerivesArguments others rest args) :
    DerivesArguments tokens rest (e :: args) := by
  obtain ⟨front, cut, derivedFirst⟩ := first
  obtain ⟨parts, rfl, derivedAll, back, cutBack, spelled⟩ := derived
  refine ⟨(front.map Placed.token, e) :: parts, rfl, ?_,
    front ++ ⟨.comma, position⟩ :: back, ?_, ?_⟩
  · exact List.forall_mem_cons.2 ⟨derivedFirst, derivedAll⟩
  · rw [cut, cutBack, List.append_assoc, List.cons_append]
  · -- The comma stands between the tokens of the first argument and those of the rest.
    rw [List.map_append, List.map_cons, spelled]
    cases parts with
    | nil => exact absurd rfl nonempty
    | cons part parts =>
      rw [List.map_cons, List.map_cons, List.map_cons, List.intercalate_cons_cons]
      simp

end DerivesArguments

/-- A call stands for the name of a function with its arguments in parentheses. -/
theorem DerivesFront.call {next : Placed} {word : String} {f : Function} {position : Nat}
    {inside rest : List Placed} {args : List Expr} (spelled : next.token = .word word)
    (named : Function.named? word = some f) (accepted : f.arity.accepts args.length = true)
    (arguments : DerivesArguments inside rest args) :
    DerivesFront .primary (next :: ⟨.opening, position⟩ :: inside) rest (.call f args) := by
  -- The word and the parenthesis are put in front of the arguments' tokens.
  obtain ⟨parts, rfl, derived, front, cut, listed⟩ := arguments
  refine ⟨next :: ⟨.opening, position⟩ :: front, ?_, ?_⟩
  · simpa using cut
  · rw [List.map_cons, List.map_cons, listed, spelled]
    rw [List.length_map] at accepted
    exact .call named accepted derived

mutual

/-- What a level parses, the grammar derives. -/
theorem parseLevel_derives (stop : Nat) (level : Level) (tokens : List Placed) {e : Expr}
    {rest : { rest : List Placed // rest.length < tokens.length }}
    (parsed : parseLevel stop level tokens = .ok (e, rest)) :
    DerivesFront level tokens rest.1 e := by
  -- NOT and the signs are read here, and every other level has a parser of its own.
  cases level with
  | primary =>
    rw [parseLevel] at parsed
    exact parsePrimary_derives stop tokens parsed
  | not =>
    cases tokens with
    | nil =>
      rw [parseLevel] at parsed
      exact (parseLevel_derives stop .comparison [] parsed).loosen (by decide)
    | cons next after =>
      rw [parseLevel] at parsed
      split at parsed
      · -- A negation leaves an operand of the same level behind it.
        rename_i negated
        split at parsed
        · cases parsed
        · rename_i operand last fewer inner
          cases parsed
          exact .negation negated (parseLevel_derives stop .not after inner)
      -- Any other token starts an expression of the next tighter level.
      · exact (parseLevel_derives stop .comparison (next :: after) parsed).loosen (by decide)
  | unary =>
    cases tokens with
    | nil =>
      rw [parseLevel] at parsed
      exact (parseLevel_derives stop .primary [] parsed).loosen (by decide)
    | cons next after =>
      rw [parseLevel] at parsed
      split at parsed
      · -- So does a sign.
        rename_i op known
        split at parsed
        · cases parsed
        · rename_i operand last fewer inner
          cases parsed
          exact .signed known (parseLevel_derives stop .unary after inner)
      · exact (parseLevel_derives stop .primary (next :: after) parsed).loosen (by decide)
  -- The other five levels read their operators from left to right.
  | or =>
    rw [parseLevel] at parsed
    exact parseBinary_derives stop .or tokens (by decide) parsed
  | and =>
    rw [parseLevel] at parsed
    exact parseBinary_derives stop .and tokens (by decide) parsed
  | comparison =>
    rw [parseLevel] at parsed
    exact parseBinary_derives stop .comparison tokens (by decide) parsed
  | additive =>
    rw [parseLevel] at parsed
    exact parseBinary_derives stop .additive tokens (by decide) parsed
  | multiplicative =>
    rw [parseLevel] at parsed
    exact parseBinary_derives stop .multiplicative tokens (by decide) parsed
termination_by (tokens.length, 3 * level.height + 2)
decreasing_by
  all_goals subst_vars
  all_goals first
    | exact Prod.Lex.right _ (by decide)
    | exact Prod.Lex.left _ _ (by simp)

/-- What a level of operators parses, the grammar derives. -/
theorem parseBinary_derives (stop : Nat) (level : Level) (tokens : List Placed)
    (tight : level.tighter.height < level.height) {e : Expr}
    {rest : { rest : List Placed // rest.length < tokens.length }}
    (parsed : parseBinary stop level tokens tight = .ok (e, rest)) :
    DerivesFront level tokens rest.1 e := by
  have looser : level ≠ .primary := by
    -- The tightest level has nothing below it.
    rintro rfl
    exact absurd tight (by decide)
  rw [parseBinary] at parsed
  split at parsed
  · cases parsed
  · rename_i first after fewer operand
    split at parsed
    · cases parsed
    · rename_i whole last noMore chained
      cases parsed
      -- The first operand is the whole so far, and the chain goes on from it.
      obtain ⟨front, cut, derived⟩ := parseLevel_derives stop level.tighter tokens operand
      obtain ⟨more, chain, derived⟩ :=
        parseChain_derives stop level first after chained (.tighter looser derived)
      refine ⟨front ++ more, ?_, ?_⟩
      · rw [List.append_assoc, ← chain]
        exact cut
      · rw [List.map_append]
        exact derived
termination_by (tokens.length, 3 * level.height + 1)

/-- What a chain of operators parses behind a whole so far, the grammar derives together with it. -/
theorem parseChain_derives (stop : Nat) (level : Level) (left : Expr) (tokens : List Placed)
    {e : Expr} {rest : { rest : List Placed // rest.length ≤ tokens.length }}
    (parsed : parseChain stop level left tokens = .ok (e, rest)) {before : List Token}
    (derived : Derives level before left) :
    ∃ front, tokens = front ++ rest.1 ∧
      Derives level (before ++ front.map Placed.token) e := by
  cases tokens with
  | nil =>
    -- Without a token the chain has ended.
    rw [parseChain] at parsed
    cases parsed
    exact ⟨[], rfl, by simpa using derived⟩
  | cons next tail =>
    rw [parseChain] at parsed
    split at parsed
    · -- A token that is no operator of the level ends the chain and is left to the rest.
      cases parsed
      exact ⟨[], rfl, by simpa using derived⟩
    · rename_i op operator
      split at parsed
      · cases parsed
      · rename_i right after fewer operand
        split at parsed
        · cases parsed
        · rename_i whole last noMore chained
          cases parsed
          obtain ⟨front, cut, second⟩ := parseLevel_derives stop level.tighter tail operand
          -- The rest of the chain is shorter, by the operator and its right operand.
          have shorter : after.length < (next :: tail).length := Nat.lt_succ_of_lt fewer
          -- The operands so far become the left operand of what follows.
          obtain ⟨more, chain, result⟩ := parseChain_derives stop level (.binary op left right)
            after chained (.binary operator derived second)
          refine ⟨next :: front ++ more, ?_, ?_⟩
          · rw [List.append_assoc, ← chain, cut]
            rfl
          · simpa using result
termination_by (tokens.length, 0)
decreasing_by
  all_goals subst_vars
  all_goals first
    | exact Prod.Lex.left _ _ (by assumption)
    | exact Prod.Lex.left _ _ (by simp)

/-- What is parsed as a literal, a field, a call or a part in parentheses, the grammar derives. -/
theorem parsePrimary_derives (stop : Nat) (tokens : List Placed) {e : Expr}
    {rest : { rest : List Placed // rest.length < tokens.length }}
    (parsed : parsePrimary stop tokens = .ok (e, rest)) :
    DerivesFront .primary tokens rest.1 e := by
  cases tokens with
  | nil =>
    rw [parsePrimary] at parsed
    cases parsed
  | cons next tail =>
    rw [parsePrimary] at parsed
    split at parsed
    -- A number, a string and a reference are whole by themselves.
    · rename_i x spelled
      cases parsed
      exact .single spelled (.number x)
    · rename_i text spelled
      cases parsed
      exact .single spelled (.string text)
    · rename_i name spelled
      cases parsed
      exact .single spelled (.field name)
    · rename_i collection name spelled
      cases parsed
      exact .single spelled (.foreign collection name)
    · -- An opening parenthesis needs its closing one behind the expression.
      rename_i spelled
      split at parsed
      · cases parsed
      · rename_i inner after fewer enclosed
        split at parsed
        · cases parsed
          exact .enclosed spelled (parseLevel_derives stop .or tail enclosed)
        · cases parsed
    · rename_i word spelled
      -- A word in front of a parenthesis calls a function, and any other one is a constant.
      split at parsed
      · rename_i position inside
        split at parsed
        · cases parsed
        · rename_i f named
          split at parsed
          · cases parsed
          · rename_i args after fewer arguments
            split at parsed
            · rename_i accepted
              cases parsed
              exact .call spelled named accepted (parseArguments_derives stop inside arguments)
            · cases parsed
      · split at parsed
        · rename_i v known
          cases parsed
          exact .single spelled (.constant known)
        · cases parsed
    · cases parsed
termination_by (tokens.length, 1)
decreasing_by
  all_goals subst_vars
  -- A parenthesis is one token shorter, and a call is two tokens shorter.
  all_goals exact Prod.Lex.left _ _ (by simp only [List.length_cons]; omega)

/-- The arguments of a call are derived one by one, and there may be none. -/
theorem parseArguments_derives (stop : Nat) (tokens : List Placed) {args : List Expr}
    {rest : { rest : List Placed // rest.length < tokens.length }}
    (parsed : parseArguments stop tokens = .ok (args, rest)) :
    DerivesArguments tokens rest.1 args := by
  unfold parseArguments at parsed
  split at parsed
  · cases parsed
    exact .nil
  -- Without a closing parenthesis at once there is a first argument.
  · exact (parseList_derives stop tokens parsed).2
termination_by (tokens.length, 26)

/-- The arguments of a list are derived one by one, and there is at least one. -/
theorem parseList_derives (stop : Nat) (tokens : List Placed) {args : List Expr}
    {rest : { rest : List Placed // rest.length < tokens.length }}
    (parsed : parseList stop tokens = .ok (args, rest)) :
    args ≠ [] ∧ DerivesArguments tokens rest.1 args := by
  -- Behind each argument stands a comma or the closing parenthesis.
  rw [parseList] at parsed
  split at parsed
  · cases parsed
  · rename_i first after fewer operand
    split at parsed
    · -- A comma is followed by the rest of the list, which has an argument of its own.
      rename_i position others _
      split at parsed
      · cases parsed
      · rename_i more last less listed
        cases parsed
        obtain ⟨nonempty, derived⟩ := parseList_derives stop others listed
        exact ⟨by simp, .cons (parseLevel_derives stop .or tokens operand) nonempty derived⟩
    · -- A closing parenthesis ends the list with this argument.
      cases parsed
      exact ⟨by simp, .single (parseLevel_derives stop .or tokens operand)⟩
    · cases parsed
termination_by (tokens.length, 25)
decreasing_by
  all_goals subst_vars
  all_goals first
    | exact Prod.Lex.right _ (by decide)
    | exact Prod.Lex.left _ _ (Nat.lt_of_succ_lt (by assumption))

end

/-- The tree of a whole list of tokens is derived from all of them. -/
theorem parseTokens_derives {stop : Nat} {tokens : List Placed} {e : Expr}
    (parsed : parseTokens stop tokens = .ok e) : Derives .or (tokens.map Placed.token) e := by
  unfold parseTokens at parsed
  split at parsed
  · cases parsed
  · -- The expression leaves no token behind it.
    rename_i whole
    cases parsed
    obtain ⟨front, cut, derived⟩ := parseLevel_derives stop .or tokens whole
    rw [cut, List.append_nil]
    exact derived
  · cases parsed

end CalcFields
