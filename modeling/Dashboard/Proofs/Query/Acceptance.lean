import Dashboard.Proofs.Query.ReadingInvariant
import Dashboard.Proofs.Query.Spelling

/-!
# The texts that are queries

The reader follows every derivation of the grammar: over the tokens of a phrase it
reaches the state that holds the phrase's tree. With the account of what a reading has
consumed, `Query.parse` accepts exactly the sentences, each with its one tree.
-/

namespace Dashboard.Query

namespace Reading

/-- Over some tokens one state reaches another. A word shows only by the next token
whether it is a value, so the two states agree on every rest that no colon starts. -/
def Reaches (reading : Reading) (tokens : List Token) (target : Reading) : Prop :=
  ∀ length rest, (∀ token ∈ rest.head?, token.kind ≠ .colon) →
    reading.run length (tokens ++ rest) = target.run length rest

/-- Reaching one state and then, from behind a token that is no colon, another. -/
theorem Reaches.trans {reading middle next target : Reading} {first second : List Token}
    {token : Token} (before : reading.Reaches first middle) (noColon : token.kind ≠ .colon)
    (step : middle.advance token = .ok next) (after : next.Reaches second target) :
    reading.Reaches (first ++ token :: second) target := by
  intro length rest restStart
  rw [List.append_assoc, before length (token :: second ++ rest) (by simpa using noColon)]
  simp only [List.cons_append, run, step]
  exact after length rest restStart

variable {inField : Bool} {clauses conjuncts : List Query} {groups : List OpenGroup}
  {start : Bool} {token : Token} {text : String}

/-- A word is a value when no colon follows. -/
theorem reaches_word (isWord : token.kind = .word text) :
    Reaches ⟨⟨true, clauses, conjuncts⟩, groups, .unary start⟩ [token]
      ⟨⟨true, clauses, .term text :: conjuncts⟩, groups, .operator⟩ := by
  intro length rest restStart
  cases rest with
  | nil => simp [run, advance, readUnary, isWord, finish, settleWord, deliver, Level.push]
  | cons next others =>
    have noColon : next.kind ≠ .colon := restStart next rfl
    simp [run, advance, readUnary, isWord, noColon, settleWord, deliver, Level.push]

/-- A quoted text is read as a term, as a word is. -/
theorem reaches_quoted (isQuoted : token.kind = .quoted text) :
    Reaches ⟨⟨true, clauses, conjuncts⟩, groups, .unary start⟩ [token]
      ⟨⟨true, clauses, .term text :: conjuncts⟩, groups, .operator⟩ := by
  intro length rest _
  simp [run, advance, readUnary, isQuoted, deliver, Level.push]

/-- A word or a quoted text is the operand of a field. -/
theorem reaches_operand {name : String}
    (isText : token.kind = .word text ∨ token.kind = .quoted text) :
    Reaches ⟨⟨inField, clauses, conjuncts⟩, groups, .operand name⟩ [token]
      ⟨⟨inField, clauses, .field name (.term text) :: conjuncts⟩, groups, .operator⟩ := by
  intro length rest _
  rcases isText with isWord | isQuoted
  · simp [run, advance, readOperand, isWord, deliver, Level.push]
  · simp [run, advance, readOperand, isQuoted, deliver, Level.push]

/-- What a closed group delivers, by how it was opened. -/
def operandOf (body : Query) : Opening → Query
  | .bare => .group body
  | .operand name => .field name (.group body)

/-- A parenthesised level is delivered to the level around it. -/
theorem reaches_group (reading : Reading) {opening : Opening} {bodyInField : Bool}
    {openToken closeToken : Token} {tokens : List Token} {level : Level}
    (opens : reading.advance openToken =
      reading.openGroup openToken.offset opening bodyInField)
    (room : reading.groups.length < maxDepth)
    (isClose : closeToken.kind = .closeParenthesis)
    (body : Reaches ⟨.empty bodyInField,
      ⟨openToken.offset, opening, reading.level⟩ :: reading.groups, .unary true⟩ tokens
      ⟨level, ⟨openToken.offset, opening, reading.level⟩ :: reading.groups, .operator⟩) :
    reading.Reaches (openToken :: tokens ++ [closeToken])
      (reading.deliver (operandOf level.query opening)) := by
  intro length rest restStart
  have below : ¬ maxDepth ≤ reading.groups.length := by omega
  have inside := body length (closeToken :: rest) (by simp [isClose])
  simp only [List.cons_append, List.append_assoc, List.nil_append, run, opens, openGroup,
    if_neg below]
  rw [inside]
  cases opening <;>
    simp [run, advance, readOperator, isClose, closeGroup, operandOf, deliver]

end Reading

namespace Phrase

/-- How the reader goes over a run of conjuncts, from a level without any. -/
def ConjunctsRead (opened : Nat) (tokens : List Token) (inField : Bool)
    (children : List Query) : Prop :=
  ∀ clauses groups start, groups.length = opened →
    Reading.Reaches ⟨⟨inField, clauses, []⟩, groups, .unary start⟩ tokens
      ⟨⟨inField, clauses, children.reverse⟩, groups, .operator⟩

/-- How the reader goes over a run of clauses, from an empty level. -/
def ClausesRead (opened : Nat) (tokens : List Token) (inField : Bool)
    (children : List Query) : Prop :=
  ∀ groups start, groups.length = opened →
    ∃ level : Level, level.endClause = ⟨inField, children.reverse, []⟩ ∧
      Reading.Reaches ⟨.empty inField, groups, .unary start⟩ tokens
        ⟨level, groups, .operator⟩

/-- How the reader goes over the tokens of a phrase: from the state in which the phrase
must start to one that holds its tree. -/
def IsRead (opened : Nat) (tokens : List Token) : Phrase → Prop
  | operand query => ∀ inField clauses conjuncts groups name, groups.length = opened →
      Reading.Reaches ⟨⟨inField, clauses, conjuncts⟩, groups, .operand name⟩ tokens
        ⟨⟨inField, clauses, .field name query :: conjuncts⟩, groups, .operator⟩
  | unary inField query => ∀ clauses conjuncts groups start, groups.length = opened →
      Reading.Reaches ⟨⟨inField, clauses, conjuncts⟩, groups, .unary start⟩ tokens
        ⟨⟨inField, clauses, query :: conjuncts⟩, groups, .operator⟩
  | conjuncts inField children => ConjunctsRead opened tokens inField children
  | conjunction inField query => ∃ children, query = Query.conjunction children ∧
      ConjunctsRead opened tokens inField children
  | clauses inField children => ClausesRead opened tokens inField children
  | disjunction inField query => ∃ children, query = Query.disjunction children ∧
      ClausesRead opened tokens inField children

end Phrase

/-- The tokens of two runs of kinds around an operator. -/
theorem tokens_around {tokens : List Token} {operator : TokenKind}
    {kinds more : List TokenKind} (sameKinds : tokens.map Token.kind = kinds ++ operator :: more) :
    ∃ first token second, tokens = first ++ token :: second ∧
      first.map Token.kind = kinds ∧ token.kind = operator ∧
      second.map Token.kind = more := by
  obtain ⟨first, rest, rfl, firstKinds, restKinds⟩ := List.map_eq_append_iff.mp sameKinds
  obtain ⟨token, second, rfl, isOperator, secondKinds⟩ := List.map_eq_cons_iff.mp restKinds
  exact ⟨first, token, second, rfl, firstKinds, isOperator, secondKinds⟩

/-- The tokens of a parenthesised run of kinds. -/
theorem tokens_inside {tokens : List Token} {kinds : List TokenKind}
    (sameKinds : tokens.map Token.kind =
      .openParenthesis :: kinds ++ [.closeParenthesis]) :
    ∃ openToken inner closeToken, tokens = openToken :: inner ++ [closeToken] ∧
      openToken.kind = .openParenthesis ∧ inner.map Token.kind = kinds ∧
      closeToken.kind = .closeParenthesis := by
  obtain ⟨openToken, rest, rfl, isOpen, restKinds⟩ := List.map_eq_cons_iff.mp sameKinds
  obtain ⟨inner, closeToken, last, rfl, innerKinds, isClose, lastKinds⟩ :=
    tokens_around restKinds
  obtain rfl := List.map_eq_nil_iff.mp lastKinds
  exact ⟨openToken, inner, closeToken, rfl, isOpen, innerKinds, isClose⟩

section Steps

open Reading

variable {opened : Nat} {inField : Bool} {query : Query} {openToken closeToken token : Token}
  {inner first second : List Token}

/-- A group below a field is read when what stands in it is. -/
theorem Phrase.isRead_operandGroup (room : opened < maxDepth)
    (isOpen : openToken.kind = .openParenthesis)
    (isClose : closeToken.kind = .closeParenthesis)
    (body : (Phrase.disjunction true query).IsRead (opened + 1) inner) :
    (Phrase.operand (.group query)).IsRead opened (openToken :: inner ++ [closeToken]) := by
  obtain ⟨children, rfl, read⟩ := body
  intro inField clauses conjuncts groups name depth
  subst depth
  obtain ⟨level, finished, reached⟩ := read
    (⟨openToken.offset, .operand name, ⟨inField, clauses, conjuncts⟩⟩ :: groups) true rfl
  have whole := reaches_group ⟨⟨inField, clauses, conjuncts⟩, groups, .operand name⟩
    (by simp [advance, readOperand, isOpen]) room isClose reached
  simpa [operandOf, deliver, Level.push, Level.query, finished] using whole

/-- A group is read when what stands in it is. -/
theorem Phrase.isRead_group (room : opened < maxDepth)
    (isOpen : openToken.kind = .openParenthesis)
    (isClose : closeToken.kind = .closeParenthesis)
    (body : (Phrase.disjunction inField query).IsRead (opened + 1) inner) :
    (Phrase.unary inField (.group query)).IsRead opened
      (openToken :: inner ++ [closeToken]) := by
  obtain ⟨children, rfl, read⟩ := body
  intro clauses conjuncts groups start depth
  subst depth
  obtain ⟨level, finished, reached⟩ := read
    (⟨openToken.offset, .bare, ⟨inField, clauses, conjuncts⟩⟩ :: groups) true rfl
  have whole := reaches_group ⟨⟨inField, clauses, conjuncts⟩, groups, .unary start⟩
    (by simp [advance, readUnary, isOpen]) room isClose reached
  simpa [operandOf, deliver, Level.push, Level.query, finished] using whole

/-- A field is read when its operand is. -/
theorem Phrase.isRead_field {name : String} {wordToken colonToken : Token}
    (isWord : wordToken.kind = .word name) (isColon : colonToken.kind = .colon)
    (body : (Phrase.operand query).IsRead opened inner) :
    (Phrase.unary inField (.field name query)).IsRead opened
      (wordToken :: colonToken :: inner) := by
  intro clauses conjuncts groups start depth length rest restStart
  have operand := body inField clauses conjuncts groups name depth
  simpa [run, advance, readUnary, isWord, isColon] using operand length rest restStart

/-- Behind its operator a further conjunct is read onto those before. -/
theorem Phrase.isRead_nextConjunct {children : List Query} (isAnd : token.kind = .and)
    (prior : (Phrase.conjuncts inField children).IsRead opened first)
    (last : (Phrase.unary inField query).IsRead opened second) :
    (Phrase.conjuncts inField (children ++ [query])).IsRead opened
      (first ++ token :: second) := by
  intro clauses groups start depth
  have before := prior clauses groups start depth
  have after := last clauses children.reverse groups false depth
  have noColon : token.kind ≠ .colon := by simp [isAnd]
  have step : advance ⟨⟨inField, clauses, children.reverse⟩, groups, .operator⟩ token =
      .ok ⟨⟨inField, clauses, children.reverse⟩, groups, .unary false⟩ := by
    simp only [advance, readOperator, isAnd]
  simpa using before.trans noColon step after

/-- Behind its operator a further clause is read onto those before. -/
theorem Phrase.isRead_nextClause {children : List Query} (isOr : token.kind = .or)
    (prior : (Phrase.clauses inField children).IsRead opened first)
    (last : (Phrase.conjunction inField query).IsRead opened second) :
    (Phrase.clauses inField (children ++ [query])).IsRead opened
      (first ++ token :: second) := by
  obtain ⟨conjuncts, rfl, read⟩ := last
  intro groups start depth
  obtain ⟨level, finished, before⟩ := prior groups start depth
  have after := read children.reverse groups false depth
  have noColon : token.kind ≠ .colon := by simp [isOr]
  have step : advance ⟨level, groups, .operator⟩ token =
      .ok ⟨⟨inField, children.reverse, []⟩, groups, .unary false⟩ := by
    simp only [advance, readOperator, isOr, finished]
  exact ⟨_, by simp [Level.endClause], before.trans noColon step after⟩

end Steps

namespace Derives

open Reading

/-- The reader follows every derivation. -/
theorem isRead {opened : Nat} {phrase : Phrase} {kinds : List TokenKind}
    (derivation : Derives opened phrase kinds) {tokens : List Token}
    (sameKinds : tokens.map Token.kind = kinds) : phrase.IsRead opened tokens := by
  induction derivation generalizing tokens with
  | operandWord =>
    obtain ⟨token, rfl, isWord⟩ := List.map_eq_singleton_iff.mp sameKinds
    intro inField clauses conjuncts groups name _
    exact reaches_operand (.inl isWord)
  | operandQuoted =>
    obtain ⟨token, rfl, isQuoted⟩ := List.map_eq_singleton_iff.mp sameKinds
    intro inField clauses conjuncts groups name _
    exact reaches_operand (.inr isQuoted)
  | operandGroup room _ inductionHypothesis =>
    obtain ⟨openToken, inner, closeToken, rfl, isOpen, innerKinds, isClose⟩ :=
      tokens_inside sameKinds
    exact Phrase.isRead_operandGroup room isOpen isClose (inductionHypothesis innerKinds)
  | word =>
    obtain ⟨token, rfl, isWord⟩ := List.map_eq_singleton_iff.mp sameKinds
    intro clauses conjuncts groups start _
    exact reaches_word isWord
  | quoted =>
    obtain ⟨token, rfl, isQuoted⟩ := List.map_eq_singleton_iff.mp sameKinds
    intro clauses conjuncts groups start _
    exact reaches_quoted isQuoted
  | field _ inductionHypothesis =>
    obtain ⟨wordToken, rest, rfl, isWord, restKinds⟩ := List.map_eq_cons_iff.mp sameKinds
    obtain ⟨colonToken, inner, rfl, isColon, operandKinds⟩ := List.map_eq_cons_iff.mp restKinds
    exact Phrase.isRead_field isWord isColon (inductionHypothesis operandKinds)
  | group room _ inductionHypothesis =>
    obtain ⟨openToken, inner, closeToken, rfl, isOpen, innerKinds, isClose⟩ :=
      tokens_inside sameKinds
    exact Phrase.isRead_group room isOpen isClose (inductionHypothesis innerKinds)
  | firstConjunct _ inductionHypothesis =>
    intro clauses groups start depth
    exact inductionHypothesis sameKinds clauses [] groups start depth
  | nextConjunct _ _ priorRead lastRead =>
    obtain ⟨first, token, second, rfl, firstKinds, isAnd, secondKinds⟩ :=
      tokens_around sameKinds
    exact Phrase.isRead_nextConjunct isAnd (priorRead firstKinds) (lastRead secondKinds)
  | loneConjunct _ inductionHypothesis => exact ⟨_, rfl, inductionHypothesis sameKinds⟩
  | manyConjuncts _ inductionHypothesis => exact ⟨_, rfl, inductionHypothesis sameKinds⟩
  | firstClause _ inductionHypothesis =>
    obtain ⟨children, rfl, read⟩ := inductionHypothesis sameKinds
    intro groups start depth
    exact ⟨_, by simp [Level.endClause], read [] groups start depth⟩
  | nextClause _ _ priorRead lastRead =>
    obtain ⟨first, token, second, rfl, firstKinds, isOr, secondKinds⟩ :=
      tokens_around sameKinds
    exact Phrase.isRead_nextClause isOr (priorRead firstKinds) (lastRead secondKinds)
  | loneClause _ inductionHypothesis => exact ⟨_, rfl, inductionHypothesis sameKinds⟩
  | manyClauses _ inductionHypothesis => exact ⟨_, rfl, inductionHypothesis sameKinds⟩

end Derives

/-- The query of some tokens is the tree that the grammar gives them. -/
theorem ofTokens_eq_ok_iff {length : Nat} {tokens : List Token} {query : Query} :
    ofTokens length tokens = .ok query ↔ Sentence (tokens.map Token.kind) query := by
  constructor
  · intro accepted
    simpa using Reading.sentence_of_run Reading.consumed_start accepted
  · intro sentence
    obtain ⟨children, rfl, read⟩ := sentence.isRead rfl
    obtain ⟨level, finished, reaches⟩ := read [] false rfl
    have ran := reaches length [] (by simp)
    rw [List.append_nil] at ran
    rw [ofTokens, Reading.start, ran]
    simp [Reading.run, Reading.finish, Reading.closeAll, Level.query, finished]

/-- The grammar gives a run of kinds at most one tree. -/
theorem Sentence.unique {kinds : List TokenKind} {left right : Query}
    (first : Sentence kinds left) (second : Sentence kinds right) : left = right := by
  let tokens := kinds.map fun kind => Token.mk kind 0
  have sameKinds : tokens.map Token.kind = kinds := by simp [tokens, Function.comp_def]
  rw [← sameKinds] at first second
  have accepted : ofTokens 0 tokens = .ok left := ofTokens_eq_ok_iff.mpr first
  rw [ofTokens_eq_ok_iff.mpr second] at accepted
  cases accepted
  rfl

/-- No token stands for no query. -/
theorem Sentence.kinds_ne_nil {kinds : List TokenKind} {query : Query}
    (sentence : Sentence kinds query) : kinds ≠ [] := by
  rintro rfl
  have accepted : ofTokens 0 [] = .ok query := ofTokens_eq_ok_iff.mpr sentence
  cases accepted

/-- A blank text has no tokens. -/
theorem tokenize_of_isBlankText {text : String} (blank : Text.isBlankText text = true) :
    tokenize text = .ok [] :=
  Token.scan_blanks (List.all_eq_true.mp blank) 0 []

/-- Only a blank text asks for no filter. -/
theorem parse_eq_none_iff {text : String} :
    parse text = .ok none ↔ Text.isBlankText text = true := by
  constructor
  · intro unfiltered
    unfold parse at unfiltered
    split at unfiltered
    · assumption
    · split at unfiltered
      · cases unfiltered
      · split at unfiltered <;> cases unfiltered
  · intro blank
    simp [parse, blank]

/-- A text with tokens is the query of its tokens, or fails as they do. -/
theorem parse_of_tokenize {text : String} {tokens : List Token}
    (tokenized : tokenize text = .ok tokens) (someToken : tokens ≠ []) :
    parse text = (ofTokens (Text.Utf8.widths text.toList) tokens).map some := by
  have notBlank : ¬ Text.isBlankText text = true := by
    intro blank
    rw [tokenize_of_isBlankText blank] at tokenized
    cases tokenized
    exact someToken rfl
  simp only [parse, if_neg notBlank, tokenized]
  cases ofTokens (Text.Utf8.widths text.toList) tokens <;> rfl

/-- A text with tokens is a query exactly when its tokens are a sentence. -/
theorem parse_eq_some_iff {text : String} {tokens : List Token} {query : Query}
    (tokenized : tokenize text = .ok tokens) (someToken : tokens ≠ []) :
    parse text = .ok (some query) ↔ Sentence (tokens.map Token.kind) query := by
  have byTokens : ofTokens (Text.Utf8.widths text.toList) tokens = .ok query ↔
      Sentence (tokens.map Token.kind) query := ofTokens_eq_ok_iff
  rw [← byTokens, parse_of_tokenize tokenized someToken]
  cases ofTokens (Text.Utf8.widths text.toList) tokens <;> simp [Except.map]

/-- The reader accepts exactly the grammar. A text with tokens is read as the one tree of
its sentence and is refused when it is none; groups beside each other are accepted in
any number; and no filter is asked for by the blank texts alone. -/
theorem parse_accepts_exactly_sentences :
    (∀ text tokens, tokenize text = .ok tokens → tokens ≠ [] →
      (∀ query, parse text = .ok (some query) ↔ Sentence (tokens.map Token.kind) query) ∧
      ((∀ query, ¬ Sentence (tokens.map Token.kind) query) →
        ∃ error, parse text = .error error)) ∧
    (∀ kinds left right, Sentence kinds left → Sentence kinds right → left = right) ∧
    (∀ text tokens (first : List TokenKind × Query) others, tokenize text = .ok tokens →
      (∀ group ∈ first :: others, Sentence group.1 (.group group.2)) →
      (tokens.map Token.kind = joinedBy .and first others →
        parse text = .ok (some (Query.conjunction (groupsOf (first :: others))))) ∧
      (tokens.map Token.kind = joinedBy .or first others →
        parse text = .ok (some (Query.disjunction (groupsOf (first :: others)))))) ∧
    (∀ text, parse text = .ok none ↔
      ∀ character ∈ text.toList, Text.isBlank character = true) := by
  refine ⟨?_, fun _ _ _ => Sentence.unique, ?_, ?_⟩
  · intro text tokens tokenized someToken
    refine ⟨fun query => parse_eq_some_iff tokenized someToken, fun noSentence => ?_⟩
    cases parsed : parse text with
    | error error => exact ⟨error, rfl⟩
    | ok found =>
      cases found with
      | none =>
        rw [tokenize_of_isBlankText (parse_eq_none_iff.mp parsed)] at tokenized
        cases tokenized
        exact absurd rfl someToken
      | some query =>
        exact absurd ((parse_eq_some_iff tokenized someToken).mp parsed) (noSentence query)
  · intro text tokens first others tokenized groups
    have accepted {query : Query} (sentence : Sentence (tokens.map Token.kind) query) :
        parse text = .ok (some query) :=
      (parse_eq_some_iff tokenized (by simpa using sentence.kinds_ne_nil)).mpr sentence
    constructor
    · intro joined
      exact accepted (joined ▸ Sentence.joinedByAnd first others groups)
    · intro joined
      exact accepted (joined ▸ Sentence.joinedByOr first others groups)
  · intro text
    rw [parse_eq_none_iff, Text.isBlankText, List.all_eq_true]

/-- A text with a group as an operand, and one with two groups beside each other. -/
theorem parse_accepts_groups :
    (∃ tokens, tokenize "a:(b OR 'c')" = .ok tokens ∧ tokens ≠ [] ∧
      parse "a:(b OR 'c')" =
        .ok (some (.field "a" (.group (.any [.term "b", .term "c"]))))) ∧
    (∃ tokens, tokenize "(a:b) AND (c:d)" = .ok tokens ∧
      parse "(a:b) AND (c:d)" = .ok (some (.all
        [.group (.field "a" (.term "b")), .group (.field "c" (.term "d"))]))) := by
  constructor
  · have tokenized : tokenize "a:(b OR 'c')" = .ok [⟨.word "a", 0⟩, ⟨.colon, 1⟩,
        ⟨.openParenthesis, 2⟩, ⟨.word "b", 3⟩, ⟨.or, 5⟩, ⟨.quoted "c", 8⟩,
        ⟨.closeParenthesis, 11⟩] := rfl
    have accepted := parse_accepts_exactly_sentences.1 _ _ tokenized (by simp)
    have first : Derives 1 (.clauses true [.term "b"]) [.word "b"] :=
      .firstClause (.loneConjunct (.firstConjunct .word))
    have both : Derives 1 (.clauses true [.term "b", .term "c"])
        [.word "b", .or, .quoted "c"] :=
      first.nextClause (.loneConjunct (.firstConjunct .quoted))
    have sentence : Sentence [.word "a", .colon, .openParenthesis, .word "b", .or,
        .quoted "c", .closeParenthesis] (.field "a" (.group (.any [.term "b", .term "c"]))) :=
      .loneClause (.firstClause (.loneConjunct (.firstConjunct
        (.field (.operandGroup (by decide) (.manyClauses both))))))
    exact ⟨_, tokenized, by simp, (accepted.1 _).mpr sentence⟩
  · have tokenized : tokenize "(a:b) AND (c:d)" = .ok [⟨.openParenthesis, 0⟩,
        ⟨.word "a", 1⟩, ⟨.colon, 2⟩, ⟨.word "b", 3⟩, ⟨.closeParenthesis, 4⟩, ⟨.and, 6⟩,
        ⟨.openParenthesis, 10⟩, ⟨.word "c", 11⟩, ⟨.colon, 12⟩, ⟨.word "d", 13⟩,
        ⟨.closeParenthesis, 14⟩] := rfl
    have isGroup (name text : String) :
        Sentence [.openParenthesis, .word name, .colon, .word text, .closeParenthesis]
          (.group (.field name (.term text))) :=
      .loneClause (.firstClause (.loneConjunct (.firstConjunct (.group (by decide)
        (.loneClause (.firstClause (.loneConjunct (.firstConjunct
          (.field .operandWord)))))))))
    have accepted := parse_accepts_exactly_sentences.2.2.1 _ _
      ([.openParenthesis, .word "a", .colon, .word "b", .closeParenthesis],
        .field "a" (.term "b"))
      [([.openParenthesis, .word "c", .colon, .word "d", .closeParenthesis],
        .field "c" (.term "d"))] tokenized
      (List.forall_mem_cons.mpr
        ⟨isGroup "a" "b", List.forall_mem_singleton.mpr (isGroup "c" "d")⟩)
    exact ⟨_, tokenized, accepted.1 rfl⟩

end Dashboard.Query
