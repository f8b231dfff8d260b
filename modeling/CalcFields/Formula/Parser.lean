import CalcFields.Formula.Expr
import CalcFields.Formula.Lexer

/-!
The parser reads tokens by precedence levels. Binary operators associate to the left, the word NOT
binds looser than a comparison, and the words AND, OR and NOT before a parenthesis name functions.
-/

namespace CalcFields

/-- The precedence levels, loosest first. -/
inductive Level where
  | or
  | and
  | not
  | comparison
  | additive
  | multiplicative
  | unary
  | primary
deriving DecidableEq, Repr

namespace Level

/-- The next tighter level. -/
def tighter : Level → Level
  | or => and
  | and => not
  | not => comparison
  | comparison => additive
  | additive => multiplicative
  | multiplicative => unary
  | unary => primary
  | primary => primary

/-- How many levels are still to come, which bounds the descent at one token. -/
def height : Level → Nat
  | or => 7
  | and => 6
  | not => 5
  | comparison => 4
  | additive => 3
  | multiplicative => 2
  | unary => 1
  | primary => 0

end Level

namespace Token

/-- A token is a given word in any letter case. -/
def isWord (word : String) : Token → Bool
  | .word name => Function.capitals name == word
  | _ => false

/-- The binary operator that a token is at a level. -/
def operator? : Level → Token → Option BinaryOp
  | .or, t => if t.isWord "OR" then some .or else none
  | .and, t => if t.isWord "AND" then some .and else none
  | .comparison, .equal => some .equal
  | .comparison, .notEqual => some .notEqual
  | .comparison, .less => some .less
  | .comparison, .lessEqual => some .lessEqual
  | .comparison, .greater => some .greater
  | .comparison, .greaterEqual => some .greaterEqual
  | .additive, .plus => some .add
  | .additive, .minus => some .subtract
  | .multiplicative, .star => some .multiply
  | .multiplicative, .slash => some .divide
  | .multiplicative, .percent => some .modulo
  | _, _ => none

/-- The sign that a token is in front of an operand. -/
def sign? : Token → Option UnaryOp
  | .minus => some .negate
  | .plus => some .plus
  | _ => none

/-- The token opens a parenthesis. -/
def isOpening : Token → Bool
  | .opening => true
  | _ => false

end Token

/-- The next token opens a parenthesis. -/
def opensNext : List Placed → Bool
  | next :: _ => next.token.isOpening
  | [] => false

/-- A token negates what follows when it is a bang, or the word NOT that names no call. -/
def negates (token : Token) (rest : List Placed) : Bool :=
  match token with
  | .bang => true
  | other => other.isWord "NOT" && !opensNext rest

/-- The constant that a word names. -/
def constant? (word : String) : Option Value :=
  match Function.capitals word with
  | "TRUE" => some (.bool true)
  | "FALSE" => some (.bool false)
  | "NULL" => some .null
  | _ => none

/-- The fault of going on with the given tokens; without any, it lies at the end of the text. -/
def unexpected (stop : Nat) (expected : Expectation) : List Placed → Fault
  | next :: _ => ⟨next.position, .unexpectedToken next.token expected⟩
  | [] => ⟨stop, .unexpectedEnd expected⟩

/-- A parsed part and the tokens after it, fewer than there were. -/
abbrev Parsed (α : Type) (tokens : List Placed) : Type :=
  α × { rest : List Placed // rest.length < tokens.length }

/-- A parsed part and the tokens after it, no more than there were. -/
abbrev ParsedOn (α : Type) (tokens : List Placed) : Type :=
  α × { rest : List Placed // rest.length ≤ tokens.length }

mutual

/-- One expression of a level; `stop` is the byte position of the end of the text. -/
def parseLevel (stop : Nat) (level : Level) (tokens : List Placed) :
    Except Fault (Parsed Expr tokens) :=
  match level with
  | .primary => parsePrimary stop tokens
  | .not =>
    match tokens with
    | [] => parseLevel stop .comparison []
    | next :: rest =>
      if negates next.token rest then
        match parseLevel stop .not rest with
        | .error fault => .error fault
        | .ok (operand, ⟨after, fewer⟩) =>
          .ok (.unary .not operand, ⟨after, Nat.lt_succ_of_lt fewer⟩)
      else parseLevel stop .comparison (next :: rest)
  | .unary =>
    match tokens with
    | [] => parseLevel stop .primary []
    | next :: rest =>
      match next.token.sign? with
      | some op =>
        match parseLevel stop .unary rest with
        | .error fault => .error fault
        | .ok (operand, ⟨after, fewer⟩) =>
          .ok (.unary op operand, ⟨after, Nat.lt_succ_of_lt fewer⟩)
      | none => parseLevel stop .primary (next :: rest)
  | .or => parseBinary stop .or tokens (by decide)
  | .and => parseBinary stop .and tokens (by decide)
  | .comparison => parseBinary stop .comparison tokens (by decide)
  | .additive => parseBinary stop .additive tokens (by decide)
  | .multiplicative => parseBinary stop .multiplicative tokens (by decide)
termination_by (tokens.length, 3 * level.height + 2)
decreasing_by
  all_goals first
    | decreasing_tactic
    | exact Prod.Lex.right _ (by decide)

/-- A first operand of the next level and the operators that chain on to it. -/
def parseBinary (stop : Nat) (level : Level) (tokens : List Placed)
    (_tight : level.tighter.height < level.height) : Except Fault (Parsed Expr tokens) :=
  match parseLevel stop level.tighter tokens with
  | .error fault => .error fault
  | .ok (first, ⟨rest, fewer⟩) =>
    match parseChain stop level first rest with
    | .error fault => .error fault
    | .ok (whole, ⟨after, noMore⟩) => .ok (whole, ⟨after, Nat.lt_of_le_of_lt noMore fewer⟩)
termination_by (tokens.length, 3 * level.height + 1)

/-- The operators of a level and their right operands, gathered to the left. -/
def parseChain (stop : Nat) (level : Level) (left : Expr) (tokens : List Placed) :
    Except Fault (ParsedOn Expr tokens) :=
  match tokens with
  | [] => .ok (left, ⟨[], Nat.le_refl _⟩)
  | next :: rest =>
    match next.token.operator? level with
    | none => .ok (left, ⟨next :: rest, Nat.le_refl _⟩)
    | some op =>
      match parseLevel stop level.tighter rest with
      | .error fault => .error fault
      | .ok (right, ⟨after, fewer⟩) =>
        match parseChain stop level (.binary op left right) after with
        | .error fault => .error fault
        | .ok (whole, ⟨last, noMore⟩) =>
          .ok (whole, ⟨last, Nat.le_trans noMore (Nat.le_of_lt (Nat.lt_succ_of_lt fewer))⟩)
termination_by (tokens.length, 0)

/-- A literal, a field, a constant, a call or an expression in parentheses. -/
def parsePrimary (stop : Nat) (tokens : List Placed) : Except Fault (Parsed Expr tokens) :=
  match tokens with
  | [] => .error (unexpected stop .operand [])
  | next :: rest =>
    match next.token with
    | .number x => .ok (.literal (.number x), ⟨rest, Nat.lt_succ_self _⟩)
    | .string s => .ok (.literal (.string s), ⟨rest, Nat.lt_succ_self _⟩)
    | .field name => .ok (.field name, ⟨rest, Nat.lt_succ_self _⟩)
    | .foreign collection name => .ok (.foreign collection name, ⟨rest, Nat.lt_succ_self _⟩)
    | .opening =>
      match parseLevel stop .or rest with
      | .error fault => .error fault
      | .ok (inner, ⟨after, fewer⟩) =>
        match after, fewer with
        | ⟨.closing, _⟩ :: last, fewer =>
          .ok (inner, ⟨last, Nat.lt_succ_of_lt (Nat.lt_of_succ_lt fewer)⟩)
        | other, _ => .error (unexpected stop .closing other)
    | .word name =>
      match rest with
      | ⟨.opening, _⟩ :: inside =>
        match Function.named? name with
        | none => .error ⟨next.position, .unknownFunction (Function.capitals name)⟩
        | some f =>
          match parseArguments stop inside with
          | .error fault => .error fault
          | .ok (args, ⟨after, fewer⟩) =>
            if f.arity.accepts args.length then
              .ok (.call f args, ⟨after, Nat.lt_succ_of_lt (Nat.lt_succ_of_lt fewer)⟩)
            else .error ⟨next.position, .arity f args.length⟩
      | other =>
        match constant? name with
        | some v => .ok (.literal v, ⟨other, Nat.lt_succ_self _⟩)
        | none => .error ⟨next.position, .unknownIdentifier name⟩
    | _ => .error (unexpected stop .operand (next :: rest))
termination_by (tokens.length, 1)

/-- The arguments of a call after its opening parenthesis, up to the closing one. -/
def parseArguments (stop : Nat) (tokens : List Placed) : Except Fault (Parsed (List Expr) tokens) :=
  match tokens with
  | ⟨.closing, _⟩ :: rest => .ok ([], ⟨rest, Nat.lt_succ_self _⟩)
  | other => parseList stop other
termination_by (tokens.length, 26)

/-- One argument or more with commas between them, up to the closing parenthesis. -/
def parseList (stop : Nat) (tokens : List Placed) : Except Fault (Parsed (List Expr) tokens) :=
  match parseLevel stop .or tokens with
  | .error fault => .error fault
  | .ok (first, ⟨after, fewer⟩) =>
    match after, fewer with
    | ⟨.comma, _⟩ :: rest, fewer =>
      match parseList stop rest with
      | .error fault => .error fault
      | .ok (others, ⟨last, less⟩) =>
        .ok (first :: others, ⟨last, Nat.lt_trans less (Nat.lt_of_succ_lt fewer)⟩)
    | ⟨.closing, _⟩ :: rest, fewer => .ok ([first], ⟨rest, Nat.lt_of_succ_lt fewer⟩)
    | other, _ => .error (unexpected stop .separator other)
termination_by (tokens.length, 25)
decreasing_by
  · exact Prod.Lex.right _ (by decide)
  · exact Prod.Lex.left _ _ (Nat.lt_of_succ_lt fewer)

end

/-- A formula of tokens is one expression of the loosest level with nothing after it. -/
def parseTokens (stop : Nat) (tokens : List Placed) : Except Fault Expr :=
  match parseLevel stop .or tokens with
  | .error fault => .error fault
  | .ok (whole, ⟨[], _⟩) => .ok whole
  | .ok (_, ⟨next :: rest, _⟩) => .error (unexpected stop .endOfFormula (next :: rest))

/-- The tree of a formula; a formula without tokens is null. -/
def parse (formula : String) : Except Fault Expr :=
  match tokenize formula with
  | .error fault => .error fault
  | .ok [] => .ok (.literal .null)
  | .ok tokens => parseTokens (byteCount formula.toList) tokens

end CalcFields
