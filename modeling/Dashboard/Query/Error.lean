/-!
# Query errors

A text that is not a query has a syntax error: a cause and the byte offset where
it was detected. A query that cannot be compiled has a term without a field or a
term that is no pattern.
-/

namespace Dashboard.Query

/-- The deepest allowed nesting of parentheses. -/
def maxDepth : Nat := 64

/-- Why a text is not a query. -/
inductive SyntaxCause where
  /-- A `(` without a matching `)`. -/
  | unbalancedParenthesis
  /-- A `)` with nothing open. -/
  | unexpectedClosingParenthesis
  /-- A quote that is opened and never closed. -/
  | unterminatedQuote
  /-- A token that cannot stand where it does. -/
  | unexpectedToken (token : String)
  /-- The text ends where an operand is required. -/
  | unexpectedEnd
  /-- Two operands with no operator between them. -/
  | missingOperator (token : String)
  /-- A bare value outside every field. -/
  | unscopedTerm (value : String)
  /-- More than `maxDepth` open parentheses. -/
  | nestingTooDeep
  deriving DecidableEq, Repr

/-- What a cause says to a user. -/
def SyntaxCause.message : SyntaxCause → String
  | unbalancedParenthesis => "unbalanced parenthesis"
  | unexpectedClosingParenthesis => "unexpected closing parenthesis"
  | unterminatedQuote => "unterminated quote"
  | unexpectedToken token => "unexpected token '" ++ token ++ "'"
  | unexpectedEnd => "unexpected end of query"
  | missingOperator token => "expected AND or OR before '" ++ token ++ "'"
  | unscopedTerm value => "value '" ++ value ++ "' is not scoped to a field"
  | nestingTooDeep => "parentheses nested deeper than " ++ toString maxDepth

/-- A cause and the byte offset where it was detected. -/
structure SyntaxError where
  cause : SyntaxCause
  position : Nat
  deriving DecidableEq, Repr

/-- What a syntax error says to a user. -/
def SyntaxError.message (error : SyntaxError) : String :=
  error.cause.message ++ " at offset " ++ toString error.position

/-- Why a search text does not become a predicate. -/
inductive SearchError where
  | malformed (error : SyntaxError)
  /-- A term that is not a valid pattern. -/
  | invalidPattern (pattern : String) (reason : String)
  /-- A term with no enclosing field. -/
  | unscopedTerm (value : String)
  deriving DecidableEq, Repr

/-- What a search error says to a user. -/
def SearchError.message : SearchError → String
  | malformed error => "Invalid search syntax: " ++ error.message
  | invalidPattern pattern reason =>
    "Invalid search pattern '" ++ pattern ++ "': " ++ reason
  | unscopedTerm value => "Search term '" ++ value ++ "' has no field scope"

end Dashboard.Query
