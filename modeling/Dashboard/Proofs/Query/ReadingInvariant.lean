import Dashboard.Proofs.Query.Grammar
import Dashboard.Query.Reader

/-!
# What a reading has consumed

`Reading.Consumed` relates a state of the reader to the kinds of the tokens that led
to it: every open group keeps the tokens before its parenthesis, and the innermost
level accounts for the rest. Each accepted token extends the account by itself, so an
accepted text is a sentence of the grammar.
-/

namespace Dashboard.Query

/-- Operands that an operator follows, last first; without operands there is no
operator either. -/
def OperandsThen (operator : TokenKind) (opened : Nat) (phrase : List Query → Phrase)
    (reversed : List Query) (kinds : List TokenKind) : Prop :=
  (reversed = [] ∧ kinds = []) ∨
    ∃ run, kinds = run ++ [operator] ∧ Derives opened (phrase reversed.reverse) run

/-- Another operand completes the run. -/
theorem OperandsThen.push_conjunct {opened : Nat} {inField : Bool} {reversed : List Query}
    {query : Query} {kinds more : List TokenKind}
    (before : OperandsThen .and opened (.conjuncts inField) reversed kinds)
    (last : Derives opened (.unary inField query) more) :
    Derives opened (.conjuncts inField (query :: reversed).reverse) (kinds ++ more) := by
  rcases before with ⟨rfl, rfl⟩ | ⟨run, rfl, derivation⟩
  · exact .firstConjunct last
  · simpa using derivation.nextConjunct last

/-- Another clause completes the run. -/
theorem OperandsThen.push_clause {opened : Nat} {inField : Bool} {reversed : List Query}
    {query : Query} {kinds more : List TokenKind}
    (before : OperandsThen .or opened (.clauses inField) reversed kinds)
    (last : Derives opened (.conjunction inField query) more) :
    Derives opened (.clauses inField (query :: reversed).reverse) (kinds ++ more) := by
  rcases before with ⟨rfl, rfl⟩ | ⟨run, rfl, derivation⟩
  · exact .firstClause last
  · simpa using derivation.nextClause last

namespace Level

variable {opened : Nat} {level : Level} {query : Query} {kinds more : List TokenKind}

/-- The kinds that a level has read when an operand must follow. -/
def Awaits (opened : Nat) (level : Level) (kinds : List TokenKind) : Prop :=
  ∃ front back, kinds = front ++ back ∧
    OperandsThen .or opened (.clauses level.inField) level.clauses front ∧
    OperandsThen .and opened (.conjuncts level.inField) level.conjuncts back

/-- The kinds that a level has read when its last operand is finished. -/
def Holds (opened : Nat) (level : Level) (kinds : List TokenKind) : Prop :=
  ∃ front back, kinds = front ++ back ∧
    OperandsThen .or opened (.clauses level.inField) level.clauses front ∧
    Derives opened (.conjuncts level.inField level.conjuncts.reverse) back

theorem awaits_empty (inField : Bool) : Awaits opened (.empty inField) [] :=
  ⟨[], [], rfl, .inl ⟨rfl, rfl⟩, .inl ⟨rfl, rfl⟩⟩

/-- An operand finishes what a level awaits. -/
theorem Awaits.push (awaits : Awaits opened level kinds)
    (operand : Derives opened (.unary level.inField query) more) :
    Holds opened (level.push query) (kinds ++ more) := by
  obtain ⟨front, back, rfl, clauses, conjuncts⟩ := awaits
  exact ⟨front, back ++ more, by simp, clauses, conjuncts.push_conjunct operand⟩

/-- Behind an and-operator a level awaits the next conjunct. -/
theorem Holds.awaitsConjunct (holds : Holds opened level kinds) :
    Awaits opened level (kinds ++ [.and]) := by
  obtain ⟨front, back, rfl, clauses, conjuncts⟩ := holds
  exact ⟨front, back ++ [.and], by simp, clauses, .inr ⟨back, rfl, conjuncts⟩⟩

/-- Ending the conjunction of a finished level makes it a clause. -/
theorem Holds.endClause (holds : Holds opened level kinds) :
    Derives opened (.clauses level.inField level.endClause.clauses.reverse) kinds := by
  obtain ⟨front, back, rfl, clauses, conjuncts⟩ := holds
  exact clauses.push_clause conjuncts.toConjunction

/-- Behind an or-operator a level awaits the next clause. -/
theorem Holds.awaitsClause (holds : Holds opened level kinds) :
    Awaits opened level.endClause (kinds ++ [.or]) :=
  ⟨kinds ++ [.or], [], by simp, .inr ⟨kinds, rfl, holds.endClause⟩, .inl ⟨rfl, rfl⟩⟩

/-- A level whose last operand is finished has read a disjunction. -/
theorem Holds.disjunction (holds : Holds opened level kinds) :
    Derives opened (.disjunction level.inField level.query) kinds :=
  holds.endClause.toDisjunction

end Level

/-- The kinds before the innermost level, up to its parenthesis: each open group adds
what the level around it has read. The flag is the scope that the groups lead to. -/
inductive GroupsRead : List OpenGroup → Bool → List TokenKind → Prop where
  | outermost : GroupsRead [] false []
  | bare {offset level groups before kinds} (room : groups.length < maxDepth)
      (outer : GroupsRead groups level.inField before)
      (awaits : level.Awaits groups.length kinds) :
      GroupsRead (⟨offset, .bare, level⟩ :: groups) level.inField
        (before ++ kinds ++ [.openParenthesis])
  | operand {offset name level groups before kinds} (room : groups.length < maxDepth)
      (outer : GroupsRead groups level.inField before)
      (awaits : level.Awaits groups.length kinds) :
      GroupsRead (⟨offset, .operand name, level⟩ :: groups) true
        (before ++ kinds ++ [.word name, .colon, .openParenthesis])

/-- The kinds that the innermost level has read, by what may follow. -/
def Expecting.Covers (opened : Nat) (level : Level) : Expecting → List TokenKind → Prop
  | .unary _, kinds => level.Awaits opened kinds
  | .afterWord text _, kinds => ∃ front, kinds = front ++ [.word text] ∧
      level.Awaits opened front
  | .operand name, kinds => ∃ front, kinds = front ++ [.word name, .colon] ∧
      level.Awaits opened front
  | .operator, kinds => level.Holds opened kinds

namespace Reading

variable {reading next : Reading} {token : Token} {before kinds consumed : List TokenKind}

/-- The kinds of the tokens that a state of the reader accounts for. -/
def Consumed (reading : Reading) (consumed : List TokenKind) : Prop :=
  ∃ before kinds, consumed = before ++ kinds ∧
    GroupsRead reading.groups reading.level.inField before ∧
    reading.expecting.Covers reading.groups.length reading.level kinds

theorem consumed_start : start.Consumed [] :=
  ⟨[], [], rfl, .outermost, Level.awaits_empty false⟩

/-- A finished operand behind what the level has read. -/
theorem consumed_push {level : Level} {openGroups : List OpenGroup} {query : Query}
    {more : List TokenKind} (groups : GroupsRead openGroups level.inField before)
    (awaits : level.Awaits openGroups.length kinds)
    (operand : Derives openGroups.length (.unary level.inField query) more) :
    Consumed ⟨level.push query, openGroups, .operator⟩ (before ++ (kinds ++ more)) :=
  ⟨before, kinds ++ more, rfl, groups, awaits.push operand⟩

/-- Opening succeeds only below the deepest nesting. -/
theorem openGroup_eq_ok {offset : Nat} {opening : Opening} {inField : Bool}
    (opened : reading.openGroup offset opening inField = .ok next) :
    reading.groups.length < maxDepth ∧
      next = ⟨.empty inField, ⟨offset, opening, reading.level⟩ :: reading.groups,
        .unary true⟩ := by
  unfold openGroup at opened
  split at opened
  · cases opened
  · cases opened
    exact ⟨by omega, rfl⟩

/-- A token that is taken where a unary may start is consumed. -/
theorem consumed_readUnary {opened : Bool}
    (groups : GroupsRead reading.groups reading.level.inField before)
    (awaits : reading.level.Awaits reading.groups.length kinds)
    (step : reading.readUnary opened token = .ok next) :
    next.Consumed (before ++ kinds ++ [token.kind]) := by
  unfold readUnary at step
  split at step
  case h_1 text isWord =>
    cases step
    exact ⟨before, kinds ++ [.word text], by simp [isWord], groups, kinds, rfl, awaits⟩
  case h_2 text isQuoted =>
    split at step
    · rename_i scope
      cases step
      have operand : Derives reading.groups.length
          (.unary reading.level.inField (.term text)) [.quoted text] := by
        rw [scope]
        exact .quoted
      simpa [isQuoted, deliver] using consumed_push groups awaits operand
    · cases step
  case h_3 isOpen =>
    obtain ⟨room, rfl⟩ := openGroup_eq_ok step
    exact ⟨_, [], by simp [isOpen], .bare room groups awaits, Level.awaits_empty _⟩
  case h_4 => split at step <;> cases step
  all_goals cases step

/-- A token that is taken behind the colon of a field is consumed with word and colon. -/
theorem consumed_readOperand {name : String}
    (groups : GroupsRead reading.groups reading.level.inField before)
    (awaits : reading.level.Awaits reading.groups.length kinds)
    (step : reading.readOperand name token = .ok next) :
    next.Consumed (before ++ (kinds ++ [.word name, .colon]) ++ [token.kind]) := by
  unfold readOperand at step
  split at step
  case h_1 text isWord =>
    cases step
    simpa [isWord, deliver] using consumed_push groups awaits (.field .operandWord)
  case h_2 text isQuoted =>
    cases step
    simpa [isQuoted, deliver] using consumed_push groups awaits (.field .operandQuoted)
  case h_3 isOpen =>
    obtain ⟨room, rfl⟩ := openGroup_eq_ok step
    exact ⟨_, [], by simp [isOpen], .operand room groups awaits, Level.awaits_empty _⟩
  all_goals cases step

/-- Closing a group delivers it to the level around it. -/
theorem consumed_closeGroup {offset : Nat}
    (groups : GroupsRead reading.groups reading.level.inField before)
    (holds : reading.level.Holds reading.groups.length kinds)
    (step : reading.closeGroup offset = .ok next) :
    next.Consumed (before ++ kinds ++ [.closeParenthesis]) := by
  obtain ⟨level, openGroups, expecting⟩ := reading
  cases openGroups with
  | nil => cases step
  | cons innermost others =>
    cases step
    have body := holds.disjunction
    -- The group was opened on its own, or as the operand of a field; the scope inside
    -- is the one around it, or the field's.
    generalize inside : level.inField = inField at groups body
    cases groups with
    | bare room outer awaits =>
      simpa [deliver] using consumed_push outer awaits (.group room body)
    | operand room outer awaits =>
      simpa [deliver] using consumed_push outer awaits (.field (.operandGroup room body))

/-- A token that is taken behind an operand is consumed. -/
theorem consumed_readOperator
    (groups : GroupsRead reading.groups reading.level.inField before)
    (holds : reading.level.Holds reading.groups.length kinds)
    (step : reading.readOperator token = .ok next) :
    next.Consumed (before ++ kinds ++ [token.kind]) := by
  unfold readOperator at step
  split at step
  case h_1 isAnd =>
    cases step
    exact ⟨before, kinds ++ [TokenKind.and], by simp [isAnd], groups, holds.awaitsConjunct⟩
  case h_2 isOr =>
    cases step
    exact ⟨before, kinds ++ [TokenKind.or], by simp [isOr], groups, holds.awaitsClause⟩
  case h_3 isClose =>
    rw [isClose]
    exact consumed_closeGroup groups holds step
  all_goals cases step

/-- A word that is settled as a term was read as one. -/
theorem consumed_settleWord {text : String} {offset : Nat}
    (groups : GroupsRead reading.groups reading.level.inField before)
    (awaits : reading.level.Awaits reading.groups.length kinds)
    (settled : reading.settleWord text offset = .ok next) :
    GroupsRead next.groups next.level.inField before ∧
      next.level.Holds next.groups.length (kinds ++ [.word text]) := by
  unfold settleWord at settled
  split at settled
  · rename_i scope
    cases settled
    have operand : Derives reading.groups.length
        (.unary reading.level.inField (.term text)) [.word text] := by
      rw [scope]
      exact .word
    exact ⟨groups, awaits.push operand⟩
  · cases settled

/-- An accepted token extends what is consumed by its kind. -/
theorem consumed_advance (prior : reading.Consumed consumed)
    (step : reading.advance token = .ok next) : next.Consumed (consumed ++ [token.kind]) := by
  obtain ⟨before, kinds, rfl, groups, covers⟩ := prior
  unfold advance at step
  split at step
  case h_1 opened expecting =>
    rw [expecting] at covers
    exact consumed_readUnary groups covers step
  case h_2 name expecting =>
    rw [expecting] at covers
    obtain ⟨front, rfl, awaits⟩ := covers
    exact consumed_readOperand groups awaits step
  case h_3 expecting =>
    rw [expecting] at covers
    exact consumed_readOperator groups covers step
  case h_4 text offset expecting =>
    rw [expecting] at covers
    obtain ⟨front, rfl, awaits⟩ := covers
    split at step
    · rename_i isColon
      cases step
      exact ⟨before, front ++ [.word text, .colon], by simp [isColon], groups, front, rfl,
        awaits⟩
    · split at step
      · rename_i settled settles
        obtain ⟨settledGroups, holds⟩ := consumed_settleWord groups awaits settles
        exact consumed_readOperator settledGroups holds step
      · cases step

/-- A level with nothing open around it is a whole query. -/
theorem sentence_of_closeAll {query : Query}
    (groups : GroupsRead reading.groups reading.level.inField before)
    (holds : reading.level.Holds reading.groups.length kinds)
    (closed : reading.closeAll = .ok query) : Sentence (before ++ kinds) query := by
  obtain ⟨level, openGroups, expecting⟩ := reading
  cases openGroups with
  | cons innermost others => cases closed
  | nil =>
    cases closed
    have tree := holds.disjunction
    generalize inside : level.inField = inField at groups tree
    cases groups with
    | outermost => exact tree

/-- A state that can finish has consumed a sentence of its query. -/
theorem sentence_of_finish {length : Nat} {query : Query} (prior : reading.Consumed consumed)
    (finished : reading.finish length = .ok query) : Sentence consumed query := by
  obtain ⟨before, kinds, rfl, groups, covers⟩ := prior
  unfold finish at finished
  split at finished
  case h_1 => cases finished
  case h_2 => cases finished
  case h_3 expecting =>
    rw [expecting] at covers
    exact sentence_of_closeAll groups covers finished
  case h_4 text offset expecting =>
    rw [expecting] at covers
    obtain ⟨front, rfl, awaits⟩ := covers
    split at finished
    · rename_i settled settles
      obtain ⟨settledGroups, holds⟩ := consumed_settleWord groups awaits settles
      exact sentence_of_closeAll settledGroups holds finished
    · cases finished

/-- A run that ends in a query has read a sentence. -/
theorem sentence_of_run {length : Nat} {tokens : List Token} {query : Query}
    (prior : reading.Consumed consumed) (ran : reading.run length tokens = .ok query) :
    Sentence (consumed ++ tokens.map Token.kind) query := by
  induction tokens generalizing reading consumed with
  | nil =>
    rw [List.map_nil, List.append_nil]
    exact sentence_of_finish prior ran
  | cons token rest inductionHypothesis =>
    unfold run at ran
    split at ran
    · rename_i next step
      have whole := inductionHypothesis (consumed_advance prior step) ran
      simpa using whole
    · cases ran

end Reading

end Dashboard.Query
