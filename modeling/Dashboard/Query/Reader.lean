import Dashboard.Query.Token
import Dashboard.Query.Tree

/-!
# Reading queries

The grammar, where `AND` binds tighter than `OR`:

```text
query   := or
or      := and ("OR" and)*
and     := unary ("AND" unary)*
unary   := WORD ":" operand | "(" or ")" | WORD | QUOTED
operand := WORD | QUOTED | "(" or ")"
```

A bare `WORD` or `QUOTED` unary is allowed only below the operand of a field, and
groups nest at most `maxDepth` deep. The reader takes one token at a time; its
state holds every group that is still open, so that each refusal names the first
token that no query can have there.
-/

namespace Dashboard.Query

/-- How an open parenthesis was reached: on its own, or as the operand of a field. -/
inductive Opening where
  | bare
  | operand (name : String)
  deriving DecidableEq, Repr

/-- The operands read so far at one level of nesting, last first: the finished
conjunctions, and the operands of the conjunction that is being read. -/
structure Level where
  inField : Bool
  clauses : List Query
  conjuncts : List Query
  deriving DecidableEq, Repr

namespace Level

/-- A level with nothing read. -/
def empty (inField : Bool) : Level := ⟨inField, [], []⟩

/-- Adds a finished operand. -/
def push (level : Level) (operand : Query) : Level :=
  { level with conjuncts := operand :: level.conjuncts }

/-- Ends the current conjunction. -/
def endClause (level : Level) : Level :=
  { level with
    clauses := conjunction level.conjuncts.reverse :: level.clauses
    conjuncts := [] }

/-- The query of a finished level. -/
def query (level : Level) : Query :=
  disjunction level.endClause.clauses.reverse

end Level

/-- A group that is still open: where its parenthesis stands, how it was reached,
and the level around it. -/
structure OpenGroup where
  offset : Nat
  opening : Opening
  outer : Level
  deriving DecidableEq, Repr

/-- What the next token may be. -/
inductive Expecting where
  /-- The start of a unary; `opened` says that a parenthesis directly precedes. -/
  | unary (opened : Bool)
  /-- A word was read at the start of a unary; a colon makes it a field. -/
  | afterWord (text : String) (offset : Nat)
  /-- The operand of a field. -/
  | operand (name : String)
  /-- An operator, a closing parenthesis or the end. -/
  | operator
  deriving DecidableEq, Repr

/-- The state of the reader: the innermost level, the groups open around it from
the inside out, and what may follow. -/
structure Reading where
  level : Level
  groups : List OpenGroup
  expecting : Expecting
  deriving DecidableEq, Repr

namespace Reading

/-- The state before the first token. -/
def start : Reading := ⟨.empty false, [], .unary false⟩

/-- A finished operand at the innermost level. -/
def deliver (reading : Reading) (operand : Query) : Reading :=
  { reading with level := reading.level.push operand, expecting := .operator }

/-- Opens a group at a byte offset. -/
def openGroup (reading : Reading) (offset : Nat) (opening : Opening) (inField : Bool) :
    Except SyntaxError Reading :=
  if maxDepth ≤ reading.groups.length then .error ⟨.nestingTooDeep, offset⟩
  else .ok ⟨.empty inField, ⟨offset, opening, reading.level⟩ :: reading.groups, .unary true⟩

/-- A token where a unary must start. -/
def readUnary (reading : Reading) (opened : Bool) (token : Token) :
    Except SyntaxError Reading :=
  match token.kind with
  | .word text => .ok { reading with expecting := .afterWord text token.offset }
  | .quoted text =>
    if reading.level.inField then .ok (reading.deliver (.term text))
    else .error ⟨.unscopedTerm text, token.offset⟩
  | .openParenthesis => reading.openGroup token.offset .bare reading.level.inField
  | .closeParenthesis =>
    if opened then .error ⟨.unexpectedToken token.kind.describe, token.offset⟩
    else .error ⟨.unexpectedClosingParenthesis, token.offset⟩
  | .colon | .and | .or => .error ⟨.unexpectedToken token.kind.describe, token.offset⟩

/-- A token where the operand of a field must stand. -/
def readOperand (reading : Reading) (name : String) (token : Token) :
    Except SyntaxError Reading :=
  match token.kind with
  | .word text | .quoted text => .ok (reading.deliver (.field name (.term text)))
  | .openParenthesis => reading.openGroup token.offset (.operand name) true
  | .closeParenthesis | .colon | .and | .or =>
    .error ⟨.unexpectedToken token.kind.describe, token.offset⟩

/-- Closes the innermost group. -/
def closeGroup (reading : Reading) (offset : Nat) : Except SyntaxError Reading :=
  match reading.groups with
  | [] => .error ⟨.unexpectedClosingParenthesis, offset⟩
  | innermost :: others =>
    let body : Query := .group reading.level.query
    let operand := match innermost.opening with
      | .bare => body
      | .operand name => .field name body
    .ok (deliver ⟨innermost.outer, others, .operator⟩ operand)

/-- A token behind a finished operand. -/
def readOperator (reading : Reading) (token : Token) : Except SyntaxError Reading :=
  match token.kind with
  | .and => .ok { reading with expecting := .unary false }
  | .or => .ok { reading with level := reading.level.endClause, expecting := .unary false }
  | .closeParenthesis => reading.closeGroup token.offset
  | .word _ | .quoted _ | .openParenthesis =>
    .error ⟨.missingOperator token.kind.describe, token.offset⟩
  | .colon => .error ⟨.unexpectedToken token.kind.describe, token.offset⟩

/-- A word that no colon follows is a term, which needs a field in scope. -/
def settleWord (reading : Reading) (text : String) (offset : Nat) :
    Except SyntaxError Reading :=
  if reading.level.inField then .ok (reading.deliver (.term text))
  else .error ⟨.unscopedTerm text, offset⟩

/-- Takes one token. -/
def advance (reading : Reading) (token : Token) : Except SyntaxError Reading :=
  match reading.expecting with
  | .unary opened => reading.readUnary opened token
  | .operand name => reading.readOperand name token
  | .operator => reading.readOperator token
  | .afterWord text offset =>
    if token.kind = .colon then .ok { reading with expecting := .operand text }
    else match reading.settleWord text offset with
      | .ok settled => settled.readOperator token
      | .error error => .error error

/-- The query of a level with nothing open around it. -/
def closeAll (reading : Reading) : Except SyntaxError Query :=
  match reading.groups with
  | [] => .ok reading.level.query
  | innermost :: _ => .error ⟨.unbalancedParenthesis, innermost.offset⟩

/-- The end of a text of `length` bytes. -/
def finish (reading : Reading) (length : Nat) : Except SyntaxError Query :=
  match reading.expecting with
  | .unary _ | .operand _ => .error ⟨.unexpectedEnd, length⟩
  | .operator => reading.closeAll
  | .afterWord text offset =>
    match reading.settleWord text offset with
    | .ok settled => settled.closeAll
    | .error error => .error error

/-- Takes all tokens of a text of `length` bytes. -/
def run (reading : Reading) (length : Nat) : List Token → Except SyntaxError Query
  | [] => reading.finish length
  | token :: rest =>
    match reading.advance token with
    | .ok next => next.run length rest
    | .error error => .error error

end Reading

/-- The query of a list of tokens out of a text of `length` bytes. -/
def ofTokens (length : Nat) (tokens : List Token) : Except SyntaxError Query :=
  Reading.start.run length tokens

/-- Reads a query text. A text of blanks only asks for no filter. -/
def parse (text : String) : Except SyntaxError (Option Query) :=
  if Text.isBlankText text then .ok none
  else match tokenize text with
    | .error error => .error error
    | .ok tokens => match ofTokens (Text.Utf8.widths text.toList) tokens with
      | .error error => .error error
      | .ok query => .ok (some query)

end Dashboard.Query
