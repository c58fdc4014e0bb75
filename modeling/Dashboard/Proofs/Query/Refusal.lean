import Dashboard.Proofs.Query.Acceptance
import Dashboard.Proofs.Query.Nesting

/-!
# Where a reading stops

The reader takes tokens until it refuses one or the end. `Reading.Takes` relates the tokens that
it took to the state they led to, `Reading.Refusal` and `Reading.EndRefusal` say for what it
refuses, and `Reading.Behind` says what a state keeps of the tokens: where its open groups and
its last word stand.
-/

namespace Dashboard.Query

namespace Reading

/-- The reader takes some tokens and gets to a state. -/
inductive Takes : List Token → Reading → Prop where
  | start : Takes [] start
  | token {tokens reading token next} (prior : Takes tokens reading)
      (step : reading.advance token = .ok next) : Takes (tokens ++ [token]) next

/-- Why a state refuses a token. -/
inductive Refusal (reading : Reading) (token : Token) : SyntaxError → Prop where
  | unexpectedToken :
      Refusal reading token ⟨.unexpectedToken token.kind.describe, token.offset⟩
  | missingOperator :
      Refusal reading token ⟨.missingOperator token.kind.describe, token.offset⟩
  | nestingTooDeep (isOpen : token.kind = .openParenthesis)
      (deepest : maxDepth ≤ reading.groups.length) :
      Refusal reading token ⟨.nestingTooDeep, token.offset⟩
  | unexpectedClosingParenthesis (isClose : token.kind = .closeParenthesis)
      (closesNone : reading.expecting = .unary false ∨
        ∃ length query, reading.finish length = .ok query) :
      Refusal reading token ⟨.unexpectedClosingParenthesis, token.offset⟩
  | quotedTerm {text} (isQuoted : token.kind = .quoted text) :
      Refusal reading token ⟨.unscopedTerm text, token.offset⟩
  | wordTerm {text offset} (isWord : reading.expecting = .afterWord text offset) :
      Refusal reading token ⟨.unscopedTerm text, offset⟩

/-- Why a state refuses the end of a text of `length` bytes. -/
inductive EndRefusal (reading : Reading) (length : Nat) : SyntaxError → Prop where
  | unexpectedEnd : EndRefusal reading length ⟨.unexpectedEnd, length⟩
  | wordTerm {text offset} (isWord : reading.expecting = .afterWord text offset) :
      EndRefusal reading length ⟨.unscopedTerm text, offset⟩
  | unbalancedParenthesis {innermost others} (isOpen : reading.groups = innermost :: others) :
      EndRefusal reading length ⟨.unbalancedParenthesis, innermost.offset⟩

section Refusals

variable {reading settled : Reading} {token : Token} {error : SyntaxError} {text : String}
  {offset : Nat}

/-- A group is refused for its depth alone. -/
theorem refusal_of_openGroup {opening : Opening} {inField : Bool}
    (isOpen : token.kind = .openParenthesis)
    (refused : reading.openGroup token.offset opening inField = .error error) :
    reading.Refusal token error := by
  unfold openGroup at refused
  split at refused
  · rename_i deepest
    cases refused
    exact .nestingTooDeep isOpen deepest
  · cases refused

/-- Where a unary may start, a token is refused for one of the reasons listed. -/
theorem refusal_of_readUnary {opened : Bool} (expects : reading.expecting = .unary opened)
    (refused : reading.readUnary opened token = .error error) : reading.Refusal token error := by
  unfold readUnary at refused
  split at refused
  case h_1 => cases refused
  case h_2 text isQuoted =>
    split at refused
    · cases refused
    · cases refused
      exact .quotedTerm isQuoted
  case h_3 isOpen => exact refusal_of_openGroup isOpen refused
  case h_4 isClose =>
    split at refused
    · cases refused
      exact .unexpectedToken
    · rename_i notOpened
      cases refused
      exact .unexpectedClosingParenthesis isClose (.inl (by simpa [notOpened] using expects))
  all_goals
    cases refused
    exact .unexpectedToken

theorem refusal_of_readOperand {name : String}
    (refused : reading.readOperand name token = .error error) : reading.Refusal token error := by
  unfold readOperand at refused
  split at refused
  case h_1 => cases refused
  case h_2 => cases refused
  case h_3 isOpen => exact refusal_of_openGroup isOpen refused
  all_goals
    cases refused
    exact .unexpectedToken

/-- Behind an operand, a token is refused for one of the reasons listed. -/
theorem refusal_of_readOperator (sameEnd : ∀ length, reading.finish length = settled.closeAll)
    (refused : settled.readOperator token = .error error) : reading.Refusal token error := by
  unfold readOperator at refused
  split at refused
  case h_1 => cases refused
  case h_2 => cases refused
  case h_3 isClose =>
    unfold closeGroup at refused
    split at refused
    · rename_i noGroup
      cases refused
      have ends : reading.finish 0 = .ok settled.level.query := by
        rw [sameEnd, closeAll, noGroup]
      exact .unexpectedClosingParenthesis isClose (.inr ⟨_, _, ends⟩)
    · cases refused
  case h_7 =>
    cases refused
    exact .unexpectedToken
  all_goals
    cases refused
    exact .missingOperator

/-- A word that settles as a term opens and closes no group. -/
theorem groups_of_settleWord (settles : reading.settleWord text offset = .ok settled) :
    settled.groups = reading.groups := by
  unfold settleWord at settles
  split at settles <;> cases settles
  rfl

/-- A word is refused only for standing outside of every field. -/
theorem settleWord_eq_error (refused : reading.settleWord text offset = .error error) :
    error = ⟨.unscopedTerm text, offset⟩ := by
  unfold settleWord at refused
  split at refused <;> cases refused
  rfl

/-- A token that is not taken is refused for one of the reasons. -/
theorem refusal_of_advance (refused : reading.advance token = .error error) :
    reading.Refusal token error := by
  unfold advance at refused
  split at refused
  case h_1 opened expects => exact refusal_of_readUnary expects refused
  case h_2 => exact refusal_of_readOperand refused
  case h_3 expects =>
    exact refusal_of_readOperator (fun _ => by simp only [finish, expects]) refused
  case h_4 text offset expects =>
    split at refused
    · cases refused
    · split at refused
      · rename_i settled settles
        exact refusal_of_readOperator (fun _ => by simp only [finish, expects, settles]) refused
      · rename_i cause unsettled
        cases refused
        rw [settleWord_eq_error unsettled]
        exact .wordTerm expects

/-- An end that is not taken is refused for one of the reasons. -/
theorem endRefusal_of_finish {length : Nat} (refused : reading.finish length = .error error) :
    reading.EndRefusal length error := by
  have openGroup {settled : Reading} (sameGroups : settled.groups = reading.groups)
      (notClosed : settled.closeAll = .error error) : reading.EndRefusal length error := by
    unfold closeAll at notClosed
    split at notClosed
    · cases notClosed
    · rename_i innermost others isOpen
      cases notClosed
      exact .unbalancedParenthesis (sameGroups ▸ isOpen)
  unfold finish at refused
  split at refused
  case h_1 | h_2 =>
    cases refused
    exact .unexpectedEnd
  case h_3 => exact openGroup rfl refused
  case h_4 text offset expects =>
    split at refused
    · rename_i settled settles
      exact openGroup (groups_of_settleWord settles) refused
    · rename_i cause unsettled
      cases refused
      rw [settleWord_eq_error unsettled]
      exact .wordTerm expects

end Refusals

/-- What taking a token does to the open groups, and what may follow it. -/
inductive Move (reading : Reading) (token : Token) : Reading → Prop where
  | word {text level} (isWord : token.kind = .word text) :
      Move reading token ⟨level, reading.groups, .afterWord text token.offset⟩
  | colon {name level} (isColon : token.kind = .colon) :
      Move reading token ⟨level, reading.groups, .operand name⟩
  | operand {text level} (isText : token.kind = .word text ∨ token.kind = .quoted text) :
      Move reading token ⟨level, reading.groups, .operator⟩
  | operator {level} (isOperator : token.kind = .and ∨ token.kind = .or) :
      Move reading token ⟨level, reading.groups, .unary false⟩
  | opened {opening outer level} (isOpen : token.kind = .openParenthesis) :
      Move reading token ⟨level, ⟨token.offset, opening, outer⟩ :: reading.groups, .unary true⟩
  | closed {innermost others level} (isClose : token.kind = .closeParenthesis)
      (isOpen : reading.groups = innermost :: others) :
      Move reading token ⟨level, others, .operator⟩

section Moves

variable {reading settled next : Reading} {token : Token}

/-- Opening a group is one of the moves listed. -/
theorem move_of_openGroup {opening : Opening} {inField : Bool}
    (isOpen : token.kind = .openParenthesis)
    (step : reading.openGroup token.offset opening inField = .ok next) :
    reading.Move token next := by
  obtain ⟨-, rfl⟩ := openGroup_eq_ok step
  exact .opened isOpen

/-- Taking a token where a unary may start is one of the moves listed. -/
theorem move_of_readUnary {opened : Bool} (step : reading.readUnary opened token = .ok next) :
    reading.Move token next := by
  unfold readUnary at step
  split at step
  case h_1 isWord =>
    cases step
    exact .word isWord
  case h_2 isQuoted =>
    split at step <;> cases step
    exact .operand (.inr isQuoted)
  case h_3 isOpen => exact move_of_openGroup isOpen step
  case h_4 => split at step <;> cases step
  all_goals cases step

theorem move_of_readOperand {name : String} (step : reading.readOperand name token = .ok next) :
    reading.Move token next := by
  unfold readOperand at step
  split at step
  case h_1 isWord =>
    cases step
    exact .operand (.inl isWord)
  case h_2 isQuoted =>
    cases step
    exact .operand (.inr isQuoted)
  case h_3 isOpen => exact move_of_openGroup isOpen step
  all_goals cases step

/-- Taking a token behind an operand is one of the moves listed. -/
theorem move_of_readOperator (sameGroups : settled.groups = reading.groups)
    (step : settled.readOperator token = .ok next) : reading.Move token next := by
  unfold readOperator at step
  split at step
  case h_1 isAnd =>
    cases step
    rw [sameGroups]
    exact .operator (.inl isAnd)
  case h_2 isOr =>
    cases step
    rw [sameGroups]
    exact .operator (.inr isOr)
  case h_3 isClose =>
    unfold closeGroup at step
    split at step
    · cases step
    · rename_i innermost others isOpen
      cases step
      exact .closed isClose (sameGroups ▸ isOpen)
  all_goals cases step

/-- A token that is taken makes one of the moves. -/
theorem move_of_advance (step : reading.advance token = .ok next) : reading.Move token next := by
  unfold advance at step
  split at step
  case h_1 => exact move_of_readUnary step
  case h_2 => exact move_of_readOperand step
  case h_3 => exact move_of_readOperator rfl step
  case h_4 text offset expects =>
    split at step
    · rename_i isColon
      cases step
      exact .colon isColon
    · split at step
      · rename_i settled settles
        exact move_of_readOperator (groups_of_settleWord settles) step
      · cases step

end Moves

/-- What a state keeps of the tokens that led to it: its open groups stand where the parentheses
that nothing closes stand, a word that it waits behind is the last token, and it waits for a
unary that no parenthesis precedes at the start and behind an operator. -/
structure Behind (tokens : List Token) (reading : Reading) : Prop where
  groups : reading.groups.map OpenGroup.offset = (unclosed tokens).map Token.offset
  word : ∀ text offset, reading.expecting = .afterWord text offset →
    tokens.getLast? = some ⟨.word text, offset⟩
  operator : reading.expecting = .unary false ↔
    ∀ last ∈ tokens.getLast?, last.kind = .and ∨ last.kind = .or

theorem behind_start : start.Behind [] := ⟨rfl, by simp [start], by simp [start]⟩

/-- A move keeps the account. -/
theorem Behind.move {tokens : List Token} {reading next : Reading} {token : Token}
    (behind : reading.Behind tokens) (move : reading.Move token next) :
    next.Behind (tokens ++ [token]) := by
  obtain ⟨groups, -, -⟩ := behind
  have kept (sameOpen : nest (unclosed tokens) token = unclosed tokens) :
      reading.groups.map OpenGroup.offset = (unclosed (tokens ++ [token])).map Token.offset := by
    rw [unclosed_append_singleton, sameOpen, groups]
  cases move with
  | word isWord =>
    refine ⟨kept (by simp only [nest, isWord]), ?_, by simp [isWord]⟩
    rintro _ _ ⟨⟩
    obtain ⟨kind, offset⟩ := token
    simpa using isWord
  | colon isColon =>
    exact ⟨kept (by simp only [nest, isColon]), by simp, by simp [isColon]⟩
  | operand isText =>
    rcases isText with isWord | isQuoted
    · exact ⟨kept (by simp only [nest, isWord]), by simp, by simp [isWord]⟩
    · exact ⟨kept (by simp only [nest, isQuoted]), by simp, by simp [isQuoted]⟩
  | operator isOperator =>
    refine ⟨?_, by simp, by simp [isOperator]⟩
    rcases isOperator with isAnd | isOr
    · exact kept (by simp only [nest, isAnd])
    · exact kept (by simp only [nest, isOr])
  | opened isOpen =>
    refine ⟨?_, by simp, by simp [isOpen]⟩
    rw [unclosed_append_singleton, nest, isOpen]
    exact congrArg (token.offset :: ·) groups
  | closed isClose isOpen =>
    refine ⟨?_, by simp, by simp [isClose]⟩
    rw [unclosed_append_singleton, nest, isClose]
    have others := congrArg List.tail groups
    simpa [isOpen] using others

/-- The reader keeps the account of all tokens that it took. -/
theorem Takes.behind {tokens : List Token} {reading : Reading} (takes : Takes tokens reading) :
    reading.Behind tokens := by
  induction takes with
  | start => exact behind_start
  | token _ step inductionHypothesis => exact inductionHypothesis.move (move_of_advance step)

/-- As many groups are open as the tokens leave parentheses open. -/
theorem Behind.length_groups {tokens : List Token} {reading : Reading}
    (behind : reading.Behind tokens) : reading.groups.length = (unclosed tokens).length := by
  simpa using congrArg List.length behind.groups

section Run

variable {before : List Token} {reading : Reading}

/-- A run goes on where the tokens that were taken lead to. -/
theorem run_of_takes (takes : Takes before reading) (length : Nat) (rest : List Token) :
    start.run length (before ++ rest) = reading.run length rest := by
  induction takes generalizing rest with
  | start => rfl
  | token _ step inductionHypothesis =>
    rw [List.append_assoc, inductionHypothesis, List.singleton_append, run, step]

/-- The reader takes all of some tokens, or it refuses one of them. -/
theorem takes_or_refused (takes : Takes before reading) (rest : List Token) :
    (∃ stopped, Takes (before ++ rest) stopped) ∨
    ∃ front token back stopped error, before ++ rest = front ++ token :: back ∧
      Takes front stopped ∧ stopped.advance token = .error error := by
  induction rest generalizing before reading with
  | nil => exact .inl ⟨reading, by simpa using takes⟩
  | cons token rest inductionHypothesis =>
    cases step : reading.advance token with
    | ok next => simpa using inductionHypothesis (takes.token step)
    | error error => exact .inr ⟨before, token, rest, reading, error, rfl, takes, step⟩

/-- A run that fails takes the tokens up to the one that is refused, or all of them and not the
end. -/
theorem exists_refused_of_run {length : Nat} {tokens : List Token} {error : SyntaxError}
    (failed : start.run length tokens = .error error) :
    (∃ front token back stopped, tokens = front ++ token :: back ∧
      Takes front stopped ∧ stopped.advance token = .error error) ∨
    ∃ stopped, Takes tokens stopped ∧ stopped.finish length = .error error := by
  rcases takes_or_refused .start tokens with
    ⟨stopped, takes⟩ | ⟨front, token, back, stopped, cause, split, takes, refused⟩
  · have ended := run_of_takes takes length []
    rw [List.nil_append, List.append_nil, failed] at ended
    exact .inr ⟨stopped, takes, ended.symm⟩
  · rw [List.nil_append] at split
    rw [split, run_of_takes takes, run, refused] at failed
    cases failed
    exact .inl ⟨front, token, back, stopped, split, takes, refused⟩

end Run

end Reading

end Dashboard.Query
