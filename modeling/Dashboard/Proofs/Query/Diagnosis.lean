import Dashboard.Proofs.Query.Refusal
import Dashboard.Proofs.Query.Scanning

/-!
# What a syntax error points at

A reading refuses nothing too early and nothing too late. Every state can be completed, so the
tokens that were taken begin a sentence, and no sentence goes on with a token that is refused.
A syntax error therefore names the first token that leaves no query possible, or the end of a
text that something must follow.
-/

namespace Dashboard.Query

/-- Some tokens begin a sentence. -/
def Begins (tokens : List Token) : Prop :=
  ∃ more query, Sentence (tokens.map Token.kind ++ more) query

/-- Why a token is to blame, between those before it and those behind it. -/
inductive Blames (before : List Token) (token : Token) (after : List Token) :
    SyntaxCause → Prop where
  | unexpectedToken (hopeless : ¬ Begins (before ++ [token])) :
      Blames before token after (.unexpectedToken token.kind.describe)
  | missingOperator (hopeless : ¬ Begins (before ++ [token])) :
      Blames before token after (.missingOperator token.kind.describe)
  | unexpectedClosingParenthesis (hopeless : ¬ Begins (before ++ [token])) :
      Blames before token after .unexpectedClosingParenthesis
  | nestingTooDeep (hopeless : ¬ Begins (before ++ [token])) :
      Blames before token after .nestingTooDeep
  | quotedTerm {text} (isQuoted : token.kind = .quoted text)
      (hopeless : ¬ Begins (before ++ [token])) :
      Blames before token after (.unscopedTerm text)
  /-- A word may name a field, which only what follows it decides. -/
  | wordTerm {text} (isWord : token.kind = .word text)
      (hopeless : ∀ next ∈ after.head?, ¬ Begins (before ++ [token, next])) :
      Blames before token after (.unscopedTerm text)
  | unbalancedParenthesis (isOpen : token.kind = .openParenthesis)
      (begins : Begins (before ++ token :: after))
      (innermost : (unclosed (before ++ token :: after)).head? = some token) :
      Blames before token after .unbalancedParenthesis

/-- What the error of some tokens out of a text of `length` bytes says about them. -/
inductive Diagnoses (length : Nat) (tokens : List Token) : SyntaxError → Prop where
  | atEnd {more query} (unfinished : more ≠ [])
      (sentence : Sentence (tokens.map Token.kind ++ more) query) :
      Diagnoses length tokens ⟨.unexpectedEnd, length⟩
  | atToken {before token after cause} (place : tokens = before ++ token :: after)
      (begins : Begins before) (blames : Blames before token after cause) :
      Diagnoses length tokens ⟨cause, token.offset⟩

/-- What begins a sentence begins with less of it. -/
theorem Begins.of_append {front back : List Token} (begins : Begins (front ++ back)) :
    Begins front := by
  obtain ⟨more, query, sentence⟩ := begins
  exact ⟨back.map Token.kind ++ more, query, by simpa using sentence⟩

namespace Reading

section Completion

variable (length : Nat)

/-- Behind an operand the open groups can be closed. -/
theorem exists_run_of_operator (level : Level) (groups : List OpenGroup) :
    ∃ more query, run ⟨level, groups, .operator⟩ length more = .ok query := by
  induction groups generalizing level with
  | nil => exact ⟨[], level.query, rfl⟩
  | cons innermost others inductionHypothesis =>
    obtain ⟨offset, opening, outer⟩ := innermost
    obtain ⟨more, query, closes⟩ := inductionHypothesis (outer.push (operandOf level.query opening))
    refine ⟨⟨.closeParenthesis, 0⟩ :: more, query, ?_⟩
    cases opening <;> exact closes

/-- Behind the colon of a field, some tokens complete the query. -/
theorem exists_run_of_operand (level : Level) (groups : List OpenGroup) (name : String) :
    ∃ more query, run ⟨level, groups, .operand name⟩ length more = .ok query := by
  obtain ⟨more, query, closes⟩ :=
    exists_run_of_operator length (level.push (.field name (.term "a"))) groups
  exact ⟨⟨.word "a", 0⟩ :: more, query, closes⟩

/-- Behind a word, some tokens complete the query. -/
theorem exists_run_of_afterWord (level : Level) (groups : List OpenGroup) (text : String)
    (offset : Nat) :
    ∃ more query, run ⟨level, groups, .afterWord text offset⟩ length more = .ok query := by
  obtain ⟨more, query, closes⟩ := exists_run_of_operand length level groups text
  exact ⟨⟨.colon, 0⟩ :: more, query, closes⟩

/-- Some tokens complete every reading. -/
theorem exists_run (reading : Reading) : ∃ more query, reading.run length more = .ok query := by
  obtain ⟨level, groups, expecting⟩ := reading
  cases expecting with
  | unary opened =>
    obtain ⟨more, query, closes⟩ := exists_run_of_afterWord length level groups "a" 0
    exact ⟨⟨.word "a", 0⟩ :: more, query, closes⟩
  | afterWord text offset => exact exists_run_of_afterWord length level groups text offset
  | operand name => exact exists_run_of_operand length level groups name
  | operator => exact exists_run_of_operator length level groups

end Completion

section Taken

variable {before : List Token} {reading : Reading}

/-- What completes a reading makes a sentence of what led to it. -/
theorem Takes.sentence {length : Nat} {more : List Token} {query : Query}
    (takes : Takes before reading) (completes : reading.run length more = .ok query) :
    Sentence (before.map Token.kind ++ more.map Token.kind) query := by
  rw [← List.map_append, ← ofTokens_eq_ok_iff, ofTokens, run_of_takes takes]
  exact completes

/-- Tokens that are taken begin a sentence. -/
theorem Takes.begins (takes : Takes before reading) : Begins before := by
  obtain ⟨more, query, completes⟩ := exists_run 0 reading
  exact ⟨more.map Token.kind, query, takes.sentence completes⟩

/-- No sentence goes on with a token that is refused. -/
theorem Takes.not_begins {token : Token} {error : SyntaxError} (takes : Takes before reading)
    (refused : reading.advance token = .error error) : ¬ Begins (before ++ [token]) := by
  rintro ⟨more, query, sentence⟩
  let rest : List Token := more.map (⟨·, 0⟩)
  have kinds : (before ++ token :: rest).map Token.kind =
      (before ++ [token]).map Token.kind ++ more := by
    simp [rest, Function.comp_def]
  have accepted : ofTokens 0 (before ++ token :: rest) = .ok query :=
    ofTokens_eq_ok_iff.mpr (kinds ▸ sentence)
  rw [ofTokens, run_of_takes takes, run, refused] at accepted
  cases accepted

/-- Tokens that are taken, and then not the end, can go on. -/
theorem Takes.exists_unfinished {length : Nat} {error : SyntaxError}
    (takes : Takes before reading) (refused : reading.finish length = .error error) :
    ∃ more query, more ≠ [] ∧ Sentence (before.map Token.kind ++ more) query := by
  obtain ⟨more, query, completes⟩ := exists_run length reading
  refine ⟨more.map Token.kind, query, ?_, takes.sentence completes⟩
  rintro isNil
  rw [List.map_eq_nil_iff.mp isNil, run, refused] at completes
  cases completes

/-- A word that waits for a colon is the last of the tokens that were taken. -/
theorem Takes.eq_append_word {text : String} {offset : Nat} (takes : Takes before reading)
    (isWord : reading.expecting = .afterWord text offset) :
    ∃ front, before = front ++ [⟨.word text, offset⟩] := by
  have isLast := takes.behind.word text offset isWord
  exact List.getLast?_eq_some_iff.mp isLast

/-- A token that is refused is to blame, or the word before it is. -/
theorem Takes.diagnoses_refused {token : Token} {after : List Token} {error : SyntaxError}
    (takes : Takes before reading) (refused : reading.advance token = .error error)
    (length : Nat) : Diagnoses length (before ++ token :: after) error := by
  have hopeless := takes.not_begins refused
  have blamed {cause : SyntaxCause} (blames : Blames before token after cause) :
      Diagnoses length (before ++ token :: after) ⟨cause, token.offset⟩ :=
    .atToken rfl takes.begins blames
  cases refusal_of_advance refused with
  | unexpectedToken => exact blamed (.unexpectedToken hopeless)
  | missingOperator => exact blamed (.missingOperator hopeless)
  | nestingTooDeep => exact blamed (.nestingTooDeep hopeless)
  | unexpectedClosingParenthesis => exact blamed (.unexpectedClosingParenthesis hopeless)
  | quotedTerm isQuoted => exact blamed (.quotedTerm isQuoted hopeless)
  | @wordTerm text offset isWord =>
    obtain ⟨front, rfl⟩ := takes.eq_append_word isWord
    have wordBlamed : Blames front ⟨.word text, offset⟩ (token :: after) (.unscopedTerm text) :=
      .wordTerm rfl (by simpa using hopeless)
    exact .atToken (List.append_cons _ _ _).symm takes.begins.of_append wordBlamed

/-- An end that is refused is to blame, or the last word is, or what is left open. -/
theorem Takes.diagnoses_end {length : Nat} {error : SyntaxError} (takes : Takes before reading)
    (refused : reading.finish length = .error error) : Diagnoses length before error := by
  cases endRefusal_of_finish refused with
  | unexpectedEnd =>
    obtain ⟨more, query, unfinished, sentence⟩ := takes.exists_unfinished refused
    exact .atEnd unfinished sentence
  | @wordTerm text offset isWord =>
    obtain ⟨front, rfl⟩ := takes.eq_append_word isWord
    have wordBlamed : Blames front ⟨.word text, offset⟩ [] (.unscopedTerm text) :=
      .wordTerm rfl (by simp)
    exact .atToken rfl takes.begins.of_append wordBlamed
  | @unbalancedParenthesis innermost others isOpen =>
    have offsets := takes.behind.groups
    rw [isOpen, List.map_cons] at offsets
    obtain ⟨token, rest, unclosedTokens, sameOffset, -⟩ := List.map_eq_cons_iff.mp offsets.symm
    have isUnclosed : token ∈ unclosed before := by simp [unclosedTokens]
    obtain ⟨isToken, opens⟩ := mem_unclosed isUnclosed
    obtain ⟨front, back, rfl⟩ := List.append_of_mem isToken
    have blamed : Blames front token back .unbalancedParenthesis :=
      .unbalancedParenthesis opens takes.begins (by simp [unclosedTokens])
    rw [← sameOffset]
    exact .atToken rfl takes.begins.of_append blamed

end Taken

end Reading

/-- The error of some tokens says something about them. -/
theorem diagnoses_of_ofTokens {length : Nat} {tokens : List Token} {error : SyntaxError}
    (failed : ofTokens length tokens = .error error) : Diagnoses length tokens error := by
  rcases Reading.exists_refused_of_run failed with
    ⟨front, token, back, stopped, rfl, takes, refused⟩ | ⟨stopped, takes, refused⟩
  · exact takes.diagnoses_refused refused length
  · exact takes.diagnoses_end refused

/-- Only an error at the end of the text is about the end. -/
theorem Diagnoses.unexpectedEnd_iff {length : Nat} {tokens : List Token} {error : SyntaxError}
    (diagnoses : Diagnoses length tokens error)
    (inside : ∀ token ∈ tokens, token.offset < length) :
    error.cause = .unexpectedEnd ↔ error.position = length := by
  cases diagnoses with
  | atEnd => simp
  | @atToken before token after cause place begins blames =>
    have notEnd : token.offset ≠ length := Nat.ne_of_lt (inside token (by simp [place]))
    cases blames <;> simp [notEnd]

/-- A text that cannot be cut into tokens is refused for that. -/
theorem parse_of_tokenize_error {text : String} {error : SyntaxError}
    (failed : tokenize text = .error error) : parse text = .error error := by
  unfold parse
  split
  · rename_i blank
    rw [tokenize_of_isBlankText blank] at failed
    cases failed
  · rw [failed]

/-- A text with tokens fails as they do. -/
theorem ofTokens_of_parse_error {text : String} {tokens : List Token} {error : SyntaxError}
    (tokenized : tokenize text = .ok tokens) (failed : parse text = .error error) :
    ofTokens (Text.Utf8.widths text.toList) tokens = .error error := by
  unfold parse at failed
  split at failed
  · cases failed
  · rw [tokenized] at failed
    dsimp only at failed
    split at failed
    · rename_i cause refused
      cases failed
      exact refused
    · cases failed

/-- A syntax error points at the first token that leaves no query possible. Of a text with tokens
it is at the end exactly when something must follow there, and otherwise at a token, before which
everything begins a query; the cause tells why that token is to blame. A text without tokens
has a quote that nothing closes, and the error is at that quote. -/
theorem parse_error_points_at_first_hopeless_token :
    (∀ text tokens error, tokenize text = .ok tokens → parse text = .error error →
      Diagnoses (Text.Utf8.widths text.toList) tokens error ∧
      (error.cause = .unexpectedEnd ↔ error.position = Text.Utf8.widths text.toList)) ∧
    ∀ text error, tokenize text = .error error →
      parse text = .error error ∧
      ∃ position, error = ⟨.unterminatedQuote, position⟩ ∧
        Token.LeavesOpen .between 0 text.toList position := by
  constructor
  · intro text tokens error tokenized failed
    have diagnoses := diagnoses_of_ofTokens (ofTokens_of_parse_error tokenized failed)
    exact ⟨diagnoses, diagnoses.unexpectedEnd_iff (Token.offset_lt_of_tokenize tokenized)⟩
  · intro text error failed
    exact ⟨parse_of_tokenize_error failed, Token.leavesOpen_of_tokenize failed⟩

/-- The error of a text is at the parenthesis that it leaves open, at the word that no colon
follows, or at the quote that it does not close. -/
theorem parse_error_points_into_texts :
    (∃ tokens, tokenize "a:(b AND c" = .ok tokens ∧
      parse "a:(b AND c" = .error ⟨.unbalancedParenthesis, 2⟩ ∧
      Diagnoses 10 tokens ⟨.unbalancedParenthesis, 2⟩) ∧
    (∃ tokens, tokenize "a:b OR c d" = .ok tokens ∧
      parse "a:b OR c d" = .error ⟨.unscopedTerm "c", 7⟩ ∧
      Diagnoses 10 tokens ⟨.unscopedTerm "c", 7⟩) ∧
    parse "a:b OR 'c" = .error ⟨.unterminatedQuote, 7⟩ ∧
      Token.LeavesOpen .between 0 "a:b OR 'c".toList 7 := by
  obtain ⟨atToken, atQuote⟩ := parse_error_points_at_first_hopeless_token
  have quoteFails : tokenize "a:b OR 'c" = .error ⟨.unterminatedQuote, 7⟩ := rfl
  obtain ⟨failed, position, here, leavesOpen⟩ := atQuote _ _ quoteFails
  cases here
  exact ⟨⟨_, rfl, rfl, (atToken "a:(b AND c" _ _ rfl rfl).1⟩,
    ⟨_, rfl, rfl, (atToken "a:b OR c d" _ _ rfl rfl).1⟩, failed, leavesOpen⟩

end Dashboard.Query
