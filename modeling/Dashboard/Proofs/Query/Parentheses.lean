import Dashboard.Proofs.Query.Diagnosis

/-!
# What the errors about parentheses say

A parenthesis that is said to stay open does, and one that is said to nest too deep stands inside
as many open ones as may be open. A closing parenthesis is said to close nothing where nothing is
open, but also directly behind an operator, where it may well have an open one to close.
-/

namespace Dashboard.Query

/-- The tokens behind which a closing parenthesis is said to close nothing: none or those of a
whole query, so that nothing is open; or some that end in an operator, whatever is open. -/
inductive Stray (before : List Token) : Prop where
  | outside (noneOpen : unclosed before = [])
      (complete : before = [] ∨ ∃ query, Sentence (before.map Token.kind) query)
  | operator {last} (isLast : before.getLast? = some last)
      (isOperator : last.kind = .and ∨ last.kind = .or)

/-- A sentence closes all of its parentheses. -/
theorem Sentence.unclosed_eq_nil {tokens : List Token} {query : Query}
    (sentence : Sentence (tokens.map Token.kind) query) : unclosed tokens = [] := by
  rw [← List.length_eq_zero_iff, length_unclosed]
  exact sentence.foldl_countOpen 0

/-- No more groups are open than may nest. -/
theorem GroupsRead.length_le {groups : List OpenGroup} {inField : Bool} {kinds : List TokenKind}
    (groupsRead : GroupsRead groups inField kinds) : groups.length ≤ maxDepth := by
  cases groupsRead with
  | outermost => exact Nat.zero_le _
  | bare room _ _ | operand room _ _ => exact room

namespace Reading

variable {before : List Token} {reading : Reading} {token : Token}

/-- A closing parenthesis closes nothing behind what can end. -/
theorem advance_close_of_finish {length : Nat} {query : Query}
    (isClose : token.kind = .closeParenthesis) (ends : reading.finish length = .ok query) :
    reading.advance token = .error ⟨.unexpectedClosingParenthesis, token.offset⟩ := by
  have closes {settled : Reading} (closed : settled.closeAll = .ok query) :
      settled.readOperator token = .error ⟨.unexpectedClosingParenthesis, token.offset⟩ := by
    unfold closeAll at closed
    split at closed
    · rename_i noGroup
      simp only [readOperator, isClose, closeGroup, noGroup]
    · cases closed
  unfold finish at ends
  split at ends
  case h_1 | h_2 => cases ends
  case h_3 expects =>
    rw [advance, expects]
    exact closes ends
  case h_4 text offset expects =>
    split at ends
    · rename_i settled settles
      simp only [advance, expects, isClose, settles, reduceCtorEq, if_false]
      exact closes ends
    · cases ends

/-- A closing parenthesis closes nothing where an operand must follow. -/
theorem advance_close_of_unary (isClose : token.kind = .closeParenthesis)
    (expects : reading.expecting = .unary false) :
    reading.advance token = .error ⟨.unexpectedClosingParenthesis, token.offset⟩ := by
  simp [advance, expects, readUnary, isClose]

namespace Takes

/-- The groups that are open were read from the tokens. -/
theorem consumed (takes : Takes before reading) : reading.Consumed (before.map Token.kind) := by
  induction takes with
  | start => exact consumed_start
  | token _ step inductionHypothesis => simpa using consumed_advance inductionHypothesis step

/-- As many parentheses as may nest are open where no more fits. -/
theorem length_unclosed_eq (takes : Takes before reading)
    (deepest : maxDepth ≤ reading.groups.length) : (unclosed before).length = maxDepth := by
  obtain ⟨_, _, _, groups, _⟩ := takes.consumed
  rw [← takes.behind.length_groups]
  exact Nat.le_antisymm groups.length_le deepest

/-- Tokens that begin a sentence are taken. -/
theorem exists_of_begins (begins : Begins before) : ∃ reading, Takes before reading := by
  rcases takes_or_refused .start before with
    taken | ⟨front, token, back, stopped, error, split, takes, refused⟩
  · exact taken
  · rw [List.nil_append] at split
    rw [split, List.append_cons] at begins
    exact absurd begins.of_append (takes.not_begins refused)

/-- A closing parenthesis is refused behind the tokens that it strays from. -/
theorem refuses_stray (takes : Takes before reading) (stray : Stray before)
    (isClose : token.kind = .closeParenthesis) :
    reading.advance token = .error ⟨.unexpectedClosingParenthesis, token.offset⟩ := by
  have awaits (noOperand : ∀ last ∈ before.getLast?, last.kind = .and ∨ last.kind = .or) :=
    advance_close_of_unary isClose (takes.behind.operator.mpr noOperand)
  cases stray with
  | outside _ complete =>
    rcases complete with rfl | ⟨query, sentence⟩
    · exact awaits (by simp)
    · have accepted : ofTokens 0 before = .ok query := ofTokens_eq_ok_iff.mpr sentence
      have ended := run_of_takes takes 0 []
      rw [List.append_nil] at ended
      exact advance_close_of_finish isClose (ended.symm.trans accepted)
  | operator isLast isOperator =>
    refine awaits fun last isOther => ?_
    cases isLast.symm.trans isOther
    exact isOperator

/-- A closing parenthesis that is refused for closing nothing is a stray one. -/
theorem stray (takes : Takes before reading)
    (closesNone : reading.expecting = .unary false ∨
      ∃ length query, reading.finish length = .ok query) : Stray before := by
  rcases closesNone with expects | ⟨length, query, ends⟩
  · have isOperator := takes.behind.operator.mp expects
    cases isLast : before.getLast? with
    | none =>
      obtain rfl := List.getLast?_eq_none_iff.mp isLast
      exact .outside rfl (.inl rfl)
    | some last => exact .operator isLast (isOperator last isLast)
  · have completes : reading.run length [] = .ok query := ends
    have sentence := takes.sentence completes
    rw [List.map_nil, List.append_nil] at sentence
    exact .outside sentence.unclosed_eq_nil (.inr ⟨query, sentence⟩)

end Takes

end Reading

section Reports

variable {text : String} {tokens before after : List Token} {token : Token} {length position : Nat}

/-- A closing parenthesis that is refused as unexpected is a stray one behind a beginning. -/
theorem exists_stray_of_ofTokens
    (failed : ofTokens length tokens = .error ⟨.unexpectedClosingParenthesis, position⟩) :
    ∃ before token after, tokens = before ++ token :: after ∧ token.kind = .closeParenthesis ∧
      token.offset = position ∧ Begins before ∧ Stray before := by
  rcases Reading.exists_refused_of_run failed with
    ⟨front, token, back, stopped, split, takes, refused⟩ | ⟨stopped, takes, refused⟩
  · cases Reading.refusal_of_advance refused with
    | unexpectedClosingParenthesis isClose closesNone =>
      exact ⟨front, token, back, split, isClose, rfl, takes.begins, takes.stray closesNone⟩
  · cases Reading.endRefusal_of_finish refused

/-- A stray closing parenthesis behind a beginning is refused as unexpected. -/
theorem ofTokens_of_stray (isClose : token.kind = .closeParenthesis) (begins : Begins before)
    (stray : Stray before) : ofTokens length (before ++ token :: after) =
      .error ⟨.unexpectedClosingParenthesis, token.offset⟩ := by
  obtain ⟨reading, takes⟩ := Reading.Takes.exists_of_begins begins
  rw [ofTokens, Reading.run_of_takes takes, Reading.run, takes.refuses_stray stray isClose]

/-- An opening parenthesis that is refused stands where the greatest depth is reached. -/
theorem exists_deepest_of_ofTokens
    (failed : ofTokens length tokens = .error ⟨.nestingTooDeep, position⟩) :
    ∃ before token after, tokens = before ++ token :: after ∧ token.kind = .openParenthesis ∧
      token.offset = position ∧ (unclosed before).length = maxDepth := by
  rcases Reading.exists_refused_of_run failed with
    ⟨front, token, back, stopped, split, takes, refused⟩ | ⟨stopped, takes, refused⟩
  · cases Reading.refusal_of_advance refused with
    | nestingTooDeep isOpen deepest =>
      exact ⟨front, token, back, split, isOpen, rfl, takes.length_unclosed_eq deepest⟩
  · cases Reading.endRefusal_of_finish refused

/-- A parenthesis that is told to be unbalanced is the innermost one left open. -/
theorem exists_unclosed_of_ofTokens
    (failed : ofTokens length tokens = .error ⟨.unbalancedParenthesis, position⟩) :
    ∃ token, (unclosed tokens).head? = some token ∧ token.kind = .openParenthesis ∧
      token.offset = position := by
  cases diagnoses_of_ofTokens failed with
  | @atToken before token after _ place _ blames =>
    cases blames with
    | unbalancedParenthesis isOpen _ innermost => exact ⟨token, place ▸ innermost, isOpen, rfl⟩

end Reports

/-- What the errors about parentheses say of the tokens of a text. A closing parenthesis is said
to close nothing exactly where one strays: with nothing open before it, or directly behind an
operator. One that is said to stay open is the innermost of those that do, and one that is said
to nest too deep stands inside as many open ones as may be open. -/
theorem parenthesis_errors_tell_what_is_open (text : String) (tokens : List Token)
    (tokenized : tokenize text = .ok tokens) (position : Nat) :
    (parse text = .error ⟨.unexpectedClosingParenthesis, position⟩ ↔
      ∃ before token after, tokens = before ++ token :: after ∧
        token.kind = .closeParenthesis ∧ token.offset = position ∧ Begins before ∧
        Stray before) ∧
    (parse text = .error ⟨.unbalancedParenthesis, position⟩ →
      ∃ token, (unclosed tokens).head? = some token ∧ token.kind = .openParenthesis ∧
        token.offset = position) ∧
    (parse text = .error ⟨.nestingTooDeep, position⟩ →
      ∃ before token after, tokens = before ++ token :: after ∧
        token.kind = .openParenthesis ∧ token.offset = position ∧
        (unclosed before).length = maxDepth) := by
  refine ⟨⟨fun failed => ?_, ?_⟩, fun failed => ?_, fun failed => ?_⟩
  · exact exists_stray_of_ofTokens (ofTokens_of_parse_error tokenized failed)
  · rintro ⟨before, token, after, rfl, isClose, rfl, begins, stray⟩
    rw [parse_of_tokenize tokenized (by simp), ofTokens_of_stray isClose begins stray]
    rfl
  · exact exists_unclosed_of_ofTokens (ofTokens_of_parse_error tokenized failed)
  · exact exists_deepest_of_ofTokens (ofTokens_of_parse_error tokenized failed)

/-- A closing parenthesis behind a whole query strays. -/
theorem parenthesis_errors_tell_of_stray_one :
    ∃ tokens, tokenize "a:b)" = .ok tokens ∧
      ∃ before token after, tokens = before ++ token :: after ∧
        token.kind = .closeParenthesis ∧ token.offset = 3 ∧ Begins before ∧ Stray before :=
  ⟨_, rfl, (parenthesis_errors_tell_what_is_open "a:b)" _ rfl 3).1.mp rfl⟩

/-- Behind an operator a closing parenthesis is said to close nothing although it would close an
open one. -/
theorem closing_parenthesis_behind_operator_has_open_one :
    let before : List Token :=
      [⟨.word "a", 0⟩, ⟨.colon, 1⟩, ⟨.openParenthesis, 2⟩, ⟨.word "b", 3⟩, ⟨.and, 5⟩]
    tokenize "a:(b AND )" = .ok (before ++ [⟨.closeParenthesis, 9⟩]) ∧
      parse "a:(b AND )" = .error ⟨.unexpectedClosingParenthesis, 9⟩ ∧
      unclosed before = [⟨.openParenthesis, 2⟩] :=
  ⟨rfl, rfl, rfl⟩

end Dashboard.Query
