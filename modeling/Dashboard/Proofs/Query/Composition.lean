import Dashboard.Proofs.Query.Correspondence
import Dashboard.Proofs.Query.Nesting
import Dashboard.Proofs.Query.Scanning

/-!
# Queries out of queries

Accepted texts compose. The tokens of a text stand unchanged in a longer one, unless the text ends
in a backslash that would keep the character behind it; the sentence of an `OR` has the clauses of
both sides, and a group around a sentence needs room for one more parenthesis; and a composed query
asks of a record what its parts ask.
-/

namespace Dashboard.Query

namespace Token

open Text.Utf8 (width widths)

/-- Wherever some characters stand between two tokens, up to what ends a word, they complete tokens
of some kinds. -/
def Completes (piece : List Char) (kinds : List TokenKind) : Prop :=
  ∀ offset reversed rest, EndsWord rest → ∃ tokens : List Token, tokens.map Token.kind = kinds ∧
    scan .between offset reversed (piece ++ rest) =
      scan .between (offset + widths piece) (tokens.reverse ++ reversed) rest

section Completes

variable {character : Char} {piece front back : List Char} {kind : TokenKind}
  {kinds more : List TokenKind} {text : String}

theorem map_kind_moved (distance : Nat) (tokens : List Token) :
    (tokens.map (moved distance)).map Token.kind = tokens.map Token.kind := by
  simp [Function.comp_def, moved]

/-- A text has its tokens inside every other text as well, unless it dangles. -/
theorem completes_of_tokenize {tokens : List Token} (tokenized : tokenize text = .ok tokens)
    (settled : dangles text.toList = false) : Completes text.toList (tokens.map Token.kind) := by
  intro offset reversed rest ends
  refine ⟨tokens.map (moved offset), map_kind_moved offset tokens, ?_⟩
  obtain ⟨last, finished, rfl⟩ := tokenize_eq_ok tokenized
  have free : Mode.between.keeps = false := rfl
  have keeps := keeps_through free 0 text.toList
  have scanned := scans_through .between offset text.toList reversed rest
  have moves := through_moved .between offset 0 text.toList
  rw [Nat.zero_add, Mode.moved] at moves
  rw [scanned, moves]
  generalize (through .between 0 text.toList).1 = mode at finished keeps ⊢
  -- What the end of the text completes there, the end of a word completes here.
  cases mode with
  | between =>
    cases finished
    simp [Mode.moved]
  | word start characters escaped =>
    cases finished
    obtain rfl : escaped = false := keeps.trans settled
    dsimp only [Mode.moved]
    rw [scan_word_ended ends]
    simp [moved]
  | quoted _ _ _ _ => cases finished

/-- A spelling completes the kind that it spells. -/
theorem completes_spells (spells : Spells kind piece) : Completes piece [kind] :=
  fun offset _ _ ends => ⟨[⟨kind, offset⟩], rfl, scan_spells spells ends⟩

/-- A blank or a punctuation in front adds the tokens that it completes itself. -/
theorem Completes.cons (own : List TokenKind)
    (stepped : ∀ offset,
      step .between offset character = (.between, (own.map (Token.mk · offset)).reverse))
    (completes : Completes piece kinds) : Completes (character :: piece) (own ++ kinds) := by
  intro offset reversed rest ends
  obtain ⟨tokens, sameKinds, scanned⟩ := completes (offset + width character)
    ((own.map (Token.mk · offset)).reverse ++ reversed) rest ends
  refine ⟨own.map (Token.mk · offset) ++ tokens, by simp [sameKinds, Function.comp_def], ?_⟩
  rw [List.cons_append, scan, stepped, widths_cons, ← Nat.add_assoc, List.reverse_append,
    List.append_assoc]
  exact scanned

/-- Behind characters that end a word the tokens of both pieces are completed. -/
theorem Completes.append (first : Completes front kinds) (second : Completes back more)
    (ends : ∀ rest, EndsWord (back ++ rest)) : Completes (front ++ back) (kinds ++ more) := by
  intro offset reversed rest restEnds
  obtain ⟨tokens, sameKinds, scanned⟩ := first offset reversed (back ++ rest) (ends rest)
  obtain ⟨others, otherKinds, further⟩ :=
    second (offset + widths front) (tokens.reverse ++ reversed) rest restEnds
  refine ⟨tokens ++ others, by simp [sameKinds, otherKinds], ?_⟩
  rw [List.append_assoc, scanned, further, widths_append, List.reverse_append, List.append_assoc,
    Nat.add_assoc]

/-- Parentheses around a text are tokens of their own. -/
theorem Completes.parenthesized (completes : Completes piece kinds) :
    Completes ('(' :: (piece ++ [')'])) (.openParenthesis :: kinds ++ [.closeParenthesis]) := by
  have closed := completes.append (completes_spells .closeParenthesis) fun _ => endsWord_cons rfl
  exact closed.cons [.openParenthesis] fun _ => rfl

/-- A token between two texts, with a space before and behind it, is a token between theirs. -/
theorem Completes.joined (first : Completes front kinds) (spells : Spells kind piece)
    (second : Completes back more) :
    Completes (front ++ ' ' :: (piece ++ ' ' :: back)) (kinds ++ kind :: more) := by
  have behind : Completes (' ' :: back) more := second.cons [] fun _ => rfl
  have keyword := (completes_spells spells).append behind fun _ => endsWord_cons rfl
  have spaced : Completes (' ' :: (piece ++ ' ' :: back)) (kind :: more) :=
    keyword.cons [] fun _ => rfl
  exact first.append spaced fun _ => endsWord_cons rfl

/-- A text that completes tokens of some kinds has tokens of these kinds. -/
theorem Completes.exists_tokenize (completes : Completes text.toList kinds) :
    ∃ tokens, tokenize text = .ok tokens ∧ tokens.map Token.kind = kinds := by
  obtain ⟨tokens, sameKinds, scanned⟩ := completes 0 [] [] endsWord_nil
  rw [List.append_nil, List.append_nil] at scanned
  exact ⟨tokens, by simp [tokenize, scanned, scan, finish], sameKinds⟩

end Completes

end Token

section Sentences

variable {engine : PatternEngine} {opened : Nat} {inField : Bool} {scope : Option String}
  {record : Json} {query first second : Query} {children others : List Query}
  {kinds more : List TokenKind}

/-- Two runs of clauses around an `OR` are one run. -/
theorem Derives.clauses_or (run : Derives opened (.clauses inField children) kinds)
    (further : Derives opened (.clauses inField others) more) :
    Derives opened (.clauses inField (children ++ others)) (kinds ++ .or :: more) := by
  generalize isPhrase : Phrase.clauses inField others = phrase at further
  induction further generalizing others with
  | firstClause only =>
    cases isPhrase
    exact run.nextClause only
  | nextClause _ last ofPrior _ =>
    cases isPhrase
    simpa using (ofPrior run rfl).nextClause last
  | operandWord | operandQuoted | operandGroup | word | quoted | field | group | firstConjunct
  | nextConjunct | loneConjunct | manyConjuncts | loneClause | manyClauses => cases isPhrase

/-- A disjunction is that of a run of clauses. -/
theorem Derives.exists_clauses (derivation : Derives opened (.disjunction inField query) kinds) :
    ∃ children, query = disjunction children ∧
      Derives opened (.clauses inField children) kinds := by
  cases derivation with
  | loneClause only => exact ⟨_, rfl, only⟩
  | manyClauses run => exact ⟨_, rfl, run⟩

/-- A disjunction has the terms of its clauses, also where it is its only clause. -/
theorem termsIn_disjunction : termsIn scope (disjunction children) = termsOfAll scope children := by
  unfold disjunction
  split
  · simp [termsOfAll]
  · rfl

/-- A disjunction is satisfied when one of its clauses is, also where it is its only clause. -/
theorem satisfied_disjunction_iff :
    Satisfied engine record scope (disjunction children) ↔
      ∃ child ∈ children, Satisfied engine record scope child := by
  unfold disjunction
  split
  · simp
  · exact satisfied_any_iff

/-- The sentence of an `OR` has the terms of both sides, and asks for one of them. -/
theorem Sentence.exists_or (left : Sentence kinds first) (right : Sentence more second) :
    ∃ query, Sentence (kinds ++ .or :: more) query ∧
      query.terms = first.terms ++ second.terms ∧
      ∀ record, Satisfied engine record none query ↔
        Satisfied engine record none first ∨ Satisfied engine record none second := by
  obtain ⟨children, rfl, run⟩ := Derives.exists_clauses left
  obtain ⟨others, rfl, further⟩ := Derives.exists_clauses right
  refine ⟨disjunction (children ++ others), (run.clauses_or further).toDisjunction, ?_,
    fun record => ?_⟩
  · simp [terms, termsIn_disjunction, termsOfAll_eq_flatMap]
  · simp [satisfied_disjunction_iff, or_and_right, exists_or]

/-- A sentence with room for one more parenthesis is one in parentheses. -/
theorem Sentence.parenthesized (sentence : Sentence kinds query) (room : HasRoom 0 kinds) :
    Sentence (.openParenthesis :: kinds ++ [.closeParenthesis]) (.group query) :=
  (Derives.group (by decide) (sentence.deepen room)).ofUnary.ofConjunction

/-- Two sentences in parentheses around an `AND` are one sentence. -/
theorem Sentence.and_groups (left : Sentence kinds (.group first))
    (right : Sentence more (.group second)) :
    Sentence (kinds ++ .and :: more) (.all [.group first, .group second]) :=
  have run := (Derives.firstConjunct left.unaryOfGroup).nextConjunct right.unaryOfGroup
  run.toConjunction.ofConjunction

end Sentences

/-- A text of few tokens does not nest deep. -/
theorem nestsBelow_of_length_lt {bound : Nat} {text : String} {tokens : List Token}
    (tokenized : tokenize text = .ok tokens) (few : tokens.length < bound) :
    NestsBelow bound text := by
  intro others otherwise front isFront
  cases tokenized.symm.trans otherwise
  have opened := length_unclosed_le front
  have shorter := isFront.length_le
  omega

/-- There is room around the tokens of a text that nests below the deepest nesting. -/
theorem NestsBelow.hasRoom {text : String} {tokens : List Token}
    (nests : NestsBelow maxDepth text) (tokenized : tokenize text = .ok tokens) :
    HasRoom 0 (tokens.map Token.kind) := by
  intro front isFront
  obtain ⟨ofFront, isPrefix, rfl⟩ := List.prefix_map_iff.mp isFront
  rw [← length_unclosed]
  exact nests tokens tokenized ofFront isPrefix

/-- A text is accepted as a filter, and matches the records with a property. -/
def Selects (engine : PatternEngine) (text : String) (matched : Json → Prop) : Prop :=
  ∃ predicate, compileSearch engine text = .ok (some predicate) ∧
    ∀ record, predicate.holds record = true ↔ matched record

section Selection

variable {engine : PatternEngine} {text : String} {query : Query} {kinds : List TokenKind}
  {predicate : Predicate}

/-- A query becomes a predicate exactly when all of its terms do. -/
theorem exists_compile_iff :
    (∃ predicate, query.compile engine = .ok predicate) ↔
      ∀ term ∈ query.terms, term.Compiles engine := by
  have notFailed : (∃ predicate, query.compile engine = .ok predicate) ↔
      ¬ ∃ error, query.compile engine = .error error := by
    cases query.compile engine <;> simp
  rw [notFailed, exists_compile_eq_error_iff]
  simp only [ScopedTerm.exists_fails_iff, not_exists, not_and, Classical.not_not]

/-- What an accepted text says of its tokens and its query. -/
structure Accepted (engine : PatternEngine) (text : String) (predicate : Predicate)
    (tokens : List Token) (query : Query) : Prop where
  tokenized : tokenize text = .ok tokens
  sentence : Sentence (tokens.map Token.kind) query
  compiles : ∀ term ∈ query.terms, term.Compiles engine
  meaning : ∀ record, predicate.holds record = true ↔ Satisfied engine record none query

/-- A text that compiles to a predicate is accepted with its tokens and its query. -/
theorem exists_accepted (compiled : compileSearch engine text = .ok (some predicate)) :
    ∃ tokens query, Accepted engine text predicate tokens query := by
  unfold compileSearch at compiled
  split at compiled
  · cases compiled
  · cases compiled
  · rename_i query parsed
    split at compiled
    · rename_i found isPredicate
      cases compiled
      obtain ⟨tokens, tokenized, sentence⟩ := exists_sentence_of_parse parsed
      exact ⟨tokens, query, tokenized, sentence, exists_compile_iff.mp ⟨_, isPredicate⟩,
        fun record => meansIn engine record none query _ isPredicate⟩
    · cases compiled

/-- A text is accepted when its characters complete a sentence and the terms of that become
predicates. -/
theorem selects_of_completes {matched : Json → Prop}
    (completes : Token.Completes text.toList kinds) (sentence : Sentence kinds query)
    (compiles : ∀ term ∈ query.terms, term.Compiles engine)
    (meaning : ∀ record, Satisfied engine record none query ↔ matched record) :
    Selects engine text matched := by
  obtain ⟨tokens, tokenized, rfl⟩ := completes.exists_tokenize
  obtain ⟨predicate, compiled⟩ := exists_compile_iff.mpr compiles
  have someToken : tokens ≠ [] := by simpa using sentence.kinds_ne_nil
  have parsed := (parse_eq_some_iff tokenized someToken).mpr sentence
  refine ⟨predicate, by simp only [compileSearch, parsed, compiled], fun record => ?_⟩
  exact (meansIn engine record none query predicate compiled).trans (meaning record)

end Selection

/-- Accepted texts compose, unless a backslash at the end of one would keep what follows it. Two
of them around an `OR` match what one of them matches. When they leave room for one more
parenthesis, each in parentheses matches what it matches without them, and the two in parentheses
around an `AND` or an `OR` match what both match or what one of them does. -/
theorem accepted_texts_compose (engine : PatternEngine) (left right : String)
    (ofLeft ofRight : Predicate)
    (leftAccepted : compileSearch engine left = .ok (some ofLeft))
    (rightAccepted : compileSearch engine right = .ok (some ofRight))
    (leftEnds : Token.dangles left.toList = false)
    (rightEnds : Token.dangles right.toList = false) :
    Selects engine (left ++ " OR " ++ right)
      (fun record => ofLeft.holds record = true ∨ ofRight.holds record = true) ∧
    (NestsBelow maxDepth left →
      Selects engine ("(" ++ left ++ ")") (fun record => ofLeft.holds record = true) ∧
      (NestsBelow maxDepth right →
        Selects engine ("(" ++ left ++ ") AND (" ++ right ++ ")")
          (fun record => ofLeft.holds record = true ∧ ofRight.holds record = true) ∧
        Selects engine ("(" ++ left ++ ") OR (" ++ right ++ ")")
          (fun record => ofLeft.holds record = true ∨ ofRight.holds record = true))) := by
  obtain ⟨leftTokens, leftQuery, ofLeftText⟩ := exists_accepted leftAccepted
  obtain ⟨rightTokens, rightQuery, ofRightText⟩ := exists_accepted rightAccepted
  have leftCompletes := Token.completes_of_tokenize ofLeftText.tokenized leftEnds
  have rightCompletes := Token.completes_of_tokenize ofRightText.tokenized rightEnds
  have bothCompile : ∀ term ∈ leftQuery.terms ++ rightQuery.terms, term.Compiles engine :=
    List.forall_mem_append.mpr ⟨ofLeftText.compiles, ofRightText.compiles⟩
  have keywordOr : Token.Spells .or ['O', 'R'] := .or rfl
  have keywordAnd : Token.Spells .and ['A', 'N', 'D'] := .and rfl
  refine ⟨?_, fun leftNests => ?_⟩
  · obtain ⟨query, sentence, sameTerms, means⟩ :=
      ofLeftText.sentence.exists_or ofRightText.sentence
    refine selects_of_completes ?_ sentence (sameTerms ▸ bothCompile) fun record => ?_
    · simpa using leftCompletes.joined keywordOr rightCompletes
    · rw [means, ofLeftText.meaning, ofRightText.meaning]
  have leftGroup := ofLeftText.sentence.parenthesized (leftNests.hasRoom ofLeftText.tokenized)
  refine ⟨?_, fun rightNests => ?_⟩
  · refine selects_of_completes ?_ leftGroup ofLeftText.compiles fun record => ?_
    · simpa using leftCompletes.parenthesized
    · rw [satisfied_group_iff, ofLeftText.meaning]
  have rightGroup := ofRightText.sentence.parenthesized (rightNests.hasRoom ofRightText.tokenized)
  constructor
  · refine selects_of_completes ?_ (leftGroup.and_groups rightGroup) ?_ fun record => ?_
    · simpa using leftCompletes.parenthesized.joined keywordAnd rightCompletes.parenthesized
    · simpa [terms, termsIn, termsOfAll] using bothCompile
    · simp [satisfied_all_iff, satisfied_group_iff, ofLeftText.meaning, ofRightText.meaning]
  · obtain ⟨query, sentence, sameTerms, means⟩ := leftGroup.exists_or rightGroup
    refine selects_of_completes ?_ sentence (sameTerms ▸ bothCompile) fun record => ?_
    · simpa using leftCompletes.parenthesized.joined keywordOr rightCompletes.parenthesized
    · rw [means, satisfied_group_iff, satisfied_group_iff, ofLeftText.meaning,
        ofRightText.meaning]

/-- An alternative and a field with a group, each in parentheses, match what both match. -/
theorem accepted_texts_compose_around_and :
    ∃ ofLeft ofRight, compileSearch .standard "a:x OR b:y" = .ok (some ofLeft) ∧
      compileSearch .standard "c:(z)" = .ok (some ofRight) ∧
      Selects .standard "(a:x OR b:y) AND (c:(z))"
        (fun record => ofLeft.holds record = true ∧ ofRight.holds record = true) := by
  have leftNests : NestsBelow maxDepth "a:x OR b:y" := nestsBelow_of_length_lt rfl (by decide)
  have rightNests : NestsBelow maxDepth "c:(z)" := nestsBelow_of_length_lt rfl (by decide)
  have composed := accepted_texts_compose .standard "a:x OR b:y" "c:(z)" _ _ rfl rfl rfl rfl
  exact ⟨_, _, rfl, rfl, ((composed.2 leftNests).2 rightNests).1⟩

/-- A backslash at the end of a text keeps a parenthesis behind it from closing. -/
example : parse "a:x\\" = .ok (some (.field "a" (.term "x"))) ∧
    parse "(a:x\\)" = .error ⟨.unbalancedParenthesis, 0⟩ := ⟨rfl, rfl⟩

end Dashboard.Query
