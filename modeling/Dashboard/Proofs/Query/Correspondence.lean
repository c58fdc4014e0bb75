import Dashboard.Pattern.Compiled
import Dashboard.Proofs.Query.Acceptance
import Dashboard.Proofs.Query.Meaning
import Dashboard.Proofs.Query.Shape

/-!
# Texts and trees

A tree is what some text is read as exactly when it is well formed. One direction goes along
the derivation of a text, the other writes the tree: its kinds derive it again, and their
written text has these kinds.
-/

namespace Dashboard.Query

/-- Every word before a colon can name a field. -/
def NamesFields (kinds : List TokenKind) : Prop :=
  ∀ name, [.word name, .colon] <:+: kinds → IsName name

/-- What stands before the colons of a phrase stands before those of its parts. -/
theorem NamesFields.of_infix {kinds part : List TokenKind} (named : NamesFields kinds)
    (isPart : part <:+: kinds) : NamesFields part :=
  fun name beforeColon => named name (beforeColon.trans isPart)

/-- On both sides of an operator, the words before colons are those of the whole. -/
theorem NamesFields.around {first second : List TokenKind} {operator : TokenKind}
    (named : NamesFields (first ++ operator :: second)) :
    NamesFields first ∧ NamesFields second :=
  ⟨named.of_infix ⟨[], operator :: second, rfl⟩,
    named.of_infix ⟨first ++ [operator], [], by simp⟩⟩

/-- Parentheses around a phrase put no word before a colon. -/
theorem NamesFields.inside {kinds : List TokenKind}
    (named : NamesFields (.openParenthesis :: kinds ++ [.closeParenthesis])) : NamesFields kinds :=
  named.of_infix ⟨[.openParenthesis], [.closeParenthesis], rfl⟩

/-- The word before the colon of a field can name it, and so can those behind it. -/
theorem NamesFields.ofField {name : String} {kinds : List TokenKind}
    (named : NamesFields (.word name :: .colon :: kinds)) : IsName name ∧ NamesFields kinds :=
  ⟨named name ⟨[], kinds, rfl⟩, named.of_infix ⟨[.word name, .colon], [], by simp⟩⟩

/-- What the trees of a phrase have in common. -/
def Phrase.Formed (opened : Nat) : Phrase → Prop
  | .operand query => query.IsOperand ∧ query.WellFormedIn true opened
  | .unary inField query => query.IsUnary ∧ query.WellFormedIn inField opened
  | .conjuncts inField children =>
    ∀ child ∈ children, child.IsUnary ∧ child.WellFormedIn inField opened
  | .conjunction inField query => query.IsConjunction ∧ query.WellFormedIn inField opened
  | .clauses inField children =>
    ∀ child ∈ children, child.IsConjunction ∧ child.WellFormedIn inField opened
  | .disjunction inField query => query.WellFormedIn inField opened

theorem IsUnary.isConjunction {query : Query} (unary : query.IsUnary) : query.IsConjunction :=
  fun children => (unary children).2

/-- A phrase stands for well-formed trees only. -/
theorem Derives.formed {opened : Nat} {phrase : Phrase} {kinds : List TokenKind}
    (derivation : Derives opened phrase kinds) (named : NamesFields kinds)
    (room : opened ≤ maxDepth) : phrase.Formed opened := by
  -- The kinds of each part lie within those of the phrase, and so do their names. Only a group
  -- opens a level, which is why there is always room for those around a part.
  induction derivation with
  | operandWord | operandQuoted => exact ⟨.inl ⟨_, rfl⟩, wellFormedIn_term_iff.mpr ⟨rfl, room⟩⟩
  | operandGroup below _ inductionHypothesis =>
    have inside := inductionHypothesis named.inside below
    exact ⟨.inr ⟨_, rfl⟩, wellFormedIn_group_iff.mpr inside⟩
  | word | quoted => exact ⟨by simp [IsUnary], wellFormedIn_term_iff.mpr ⟨rfl, room⟩⟩
  | field _ inductionHypothesis =>
    obtain ⟨isName, bodyNamed⟩ := named.ofField
    obtain ⟨operand, formed⟩ := inductionHypothesis bodyNamed room
    exact ⟨by simp [IsUnary], wellFormedIn_field_iff.mpr ⟨isName, operand, formed⟩⟩
  | group below _ inductionHypothesis =>
    have inside := inductionHypothesis named.inside below
    exact ⟨by simp [IsUnary], wellFormedIn_group_iff.mpr inside⟩
  | firstConjunct _ inductionHypothesis =>
    exact List.forall_mem_singleton.mpr (inductionHypothesis named room)
  | nextConjunct _ _ priorFormed lastFormed =>
    obtain ⟨priorNamed, lastNamed⟩ := named.around
    exact List.forall_mem_append.mpr ⟨priorFormed priorNamed room,
      List.forall_mem_singleton.mpr (lastFormed lastNamed room)⟩
  | loneConjunct _ inductionHypothesis =>
    obtain ⟨unary, formed⟩ := List.forall_mem_singleton.mp (inductionHypothesis named room)
    exact ⟨unary.isConjunction, formed⟩
  | manyConjuncts _ inductionHypothesis =>
    have each := inductionHypothesis named room
    exact ⟨by simp [IsConjunction], wellFormedIn_all_iff.mpr ⟨by simp, each⟩⟩
  | firstClause _ inductionHypothesis =>
    exact List.forall_mem_singleton.mpr (inductionHypothesis named room)
  | nextClause _ _ priorFormed lastFormed =>
    obtain ⟨priorNamed, lastNamed⟩ := named.around
    exact List.forall_mem_append.mpr ⟨priorFormed priorNamed room,
      List.forall_mem_singleton.mpr (lastFormed lastNamed room)⟩
  | loneClause _ inductionHypothesis =>
    exact (List.forall_mem_singleton.mp (inductionHypothesis named room)).2
  | manyClauses _ inductionHypothesis =>
    have each := inductionHypothesis named room
    exact wellFormedIn_any_iff.mpr ⟨by simp, each⟩

mutual

/-- The kinds of tokens that write a query, with all of its terms quoted. -/
def kinds : Query → List TokenKind
  | .term value => [.quoted value]
  | .field name body => .word name :: .colon :: kinds body
  | .group body => .openParenthesis :: kinds body ++ [.closeParenthesis]
  | .all children => (kindsBehind .and children).tail
  | .any children => (kindsBehind .or children).tail

/-- The kinds of some queries, each behind an operator. -/
def kindsBehind (operator : TokenKind) : List Query → List TokenKind
  | [] => []
  | child :: rest => operator :: kinds child ++ kindsBehind operator rest

end

/-- Further children are spelled behind one operator each. -/
theorem kindsBehind_eq_flatMap (operator : TokenKind) (children : List Query) :
    kindsBehind operator children = children.flatMap fun child => operator :: child.kinds := by
  induction children with
  | nil => rfl
  | cons child rest inductionHypothesis => simp [kindsBehind, inductionHypothesis]

/-- A text that writes a query. -/
def write (query : Query) : String := writeKinds query.kinds

section Written

variable {inField : Bool} {opened : Nat} {query : Query}

/-- A unary alone is a conjunction, and a conjunction alone a disjunction. -/
theorem Derives.ofUnary {kinds : List TokenKind}
    (derivation : Derives opened (.unary inField query) kinds) :
    Derives opened (.conjunction inField query) kinds :=
  .loneConjunct (.firstConjunct derivation)

theorem Derives.ofConjunction {kinds : List TokenKind}
    (derivation : Derives opened (.conjunction inField query) kinds) :
    Derives opened (.disjunction inField query) kinds :=
  .loneClause (.firstClause derivation)

/-- A term or a group is an operand where it is a unary in a field. -/
theorem Derives.toOperand {kinds : List TokenKind}
    (derivation : Derives opened (.unary true query) kinds) (operand : query.IsOperand) :
    Derives opened (.operand query) kinds := by
  cases derivation with
  | word => exact .operandWord
  | quoted => exact .operandQuoted
  | group room body => exact .operandGroup room body
  | field body => obtain ⟨_, isTerm⟩ | ⟨_, isGroup⟩ := operand <;> contradiction

theorem IsOperand.isUnary (operand : query.IsOperand) : query.IsUnary := by
  rcases operand with ⟨_, rfl⟩ | ⟨_, rfl⟩ <;> simp [IsUnary]

/-- What the kinds of a query derive, by what the query can stand for. -/
structure Written (opened : Nat) (inField : Bool) (query : Query) : Prop where
  unary : query.IsUnary → Derives opened (.unary inField query) query.kinds
  conjunction : query.IsConjunction → Derives opened (.conjunction inField query) query.kinds
  disjunction : Derives opened (.disjunction inField query) query.kinds

/-- A query that is derived as a unary one is derived at every level above. -/
theorem written_of_unary (derivation : Derives opened (.unary inField query) query.kinds) :
    Written opened inField query :=
  ⟨fun _ => derivation, fun _ => derivation.ofUnary, derivation.ofUnary.ofConjunction⟩

/-- Conjuncts that are derived make a conjunction that is. -/
theorem written_all {first second : Query} {others : List Query}
    (each : ∀ child ∈ first :: second :: others,
      Derives opened (.unary inField child) child.kinds) :
    Written opened inField (.all (first :: second :: others)) := by
  have start := Derives.firstConjunct (each first (by simp))
  have run := start.conjuncts_append ((second :: others).map fun child => (child.kinds, child)) (by
    intro other isOther
    obtain ⟨child, isChild, rfl⟩ := List.mem_map.mp isOther
    exact each child (List.mem_cons_of_mem _ isChild))
  have conjunction : Derives opened (.conjunction inField (.all (first :: second :: others)))
      (kinds (.all (first :: second :: others))) := by
    simpa [Query.conjunction, kinds, kindsBehind_eq_flatMap, List.flatMap_map,
      Function.comp_def] using run.toConjunction
  exact ⟨fun unary => absurd rfl (unary _).1, fun _ => conjunction, conjunction.ofConjunction⟩

theorem written_any {first second : Query} {others : List Query}
    (each : ∀ child ∈ first :: second :: others,
      Derives opened (.conjunction inField child) child.kinds) :
    Written opened inField (.any (first :: second :: others)) := by
  have start := Derives.firstClause (each first (by simp))
  have run := start.clauses_append ((second :: others).map fun child => (child.kinds, child)) (by
    intro other isOther
    obtain ⟨child, isChild, rfl⟩ := List.mem_map.mp isOther
    exact each child (List.mem_cons_of_mem _ isChild))
  have disjunction : Derives opened (.disjunction inField (.any (first :: second :: others)))
      (kinds (.any (first :: second :: others))) := by
    simpa [Query.disjunction, kinds, kindsBehind_eq_flatMap, List.flatMap_map,
      Function.comp_def] using run.toDisjunction
  exact ⟨fun unary => absurd rfl (unary _).2, fun conjunction => absurd rfl (conjunction _),
    disjunction⟩

/-- The kinds of a well-formed query derive it. -/
theorem WellFormedIn.written (wellFormed : query.WellFormedIn inField opened) :
    Written opened inField query := by
  induction query using Query.induction generalizing inField opened with
  | term value =>
    obtain ⟨rfl, -⟩ := wellFormedIn_term_iff.mp wellFormed
    exact written_of_unary .quoted
  | field name body inductionHypothesis =>
    obtain ⟨-, operand, ofBody⟩ := wellFormedIn_field_iff.mp wellFormed
    -- The hypothesis knows the body as a unary only, so the operand comes from there.
    have inside := (inductionHypothesis ofBody).unary operand.isUnary
    exact written_of_unary (.field (inside.toOperand operand))
  | group body inductionHypothesis =>
    have ofBody := wellFormedIn_group_iff.mp wellFormed
    exact written_of_unary (.group ofBody.room (inductionHypothesis ofBody).disjunction)
  | all children inductionHypothesis =>
    obtain ⟨several, each⟩ := wellFormedIn_all_iff.mp wellFormed
    match children, several with
    | first :: second :: others, _ =>
      exact written_all fun child isChild =>
        (inductionHypothesis child isChild (each child isChild).2).unary (each child isChild).1
  | any children inductionHypothesis =>
    obtain ⟨several, each⟩ := wellFormedIn_any_iff.mp wellFormed
    match children, several with
    | first :: second :: others, _ =>
      exact written_any fun child isChild =>
        (inductionHypothesis child isChild (each child isChild).2).conjunction
          (each child isChild).1

/-- The words that write a query name its fields. -/
theorem exists_field_of_mem_kinds {text : String} (isWord : .word text ∈ query.kinds) :
    ∃ body, PartOf (.field text body) query := by
  induction query using Query.induction with
  | term value => simp [kinds] at isWord
  | field name body inductionHypothesis =>
    rcases by simpa [kinds] using isWord with rfl | inBody
    · exact ⟨body, .self⟩
    · obtain ⟨inner, isPart⟩ := inductionHypothesis inBody
      exact ⟨inner, .child (List.mem_singleton_self body) isPart⟩
  | group body inductionHypothesis =>
    obtain ⟨inner, isPart⟩ := inductionHypothesis (by simpa [kinds] using isWord)
    exact ⟨inner, .child (List.mem_singleton_self body) isPart⟩
  | all children inductionHypothesis | any children inductionHypothesis =>
    obtain ⟨child, isChild, inChild⟩ : ∃ child ∈ children, .word text ∈ child.kinds := by
      have inList := List.mem_of_mem_tail isWord
      simpa [kindsBehind_eq_flatMap] using inList
    obtain ⟨inner, isPart⟩ := inductionHypothesis child isChild inChild
    exact ⟨inner, .child isChild isPart⟩

/-- All words of a well-formed query are names. -/
theorem WellFormed.isName_of_mem_kinds (wellFormed : query.WellFormed) {text : String}
    (isWord : .word text ∈ query.kinds) : IsName text := by
  obtain ⟨body, isPart⟩ := exists_field_of_mem_kinds isWord
  cases wellFormed.nodes _ isPart with
  | field isName _ => exact isName

/-- A well-formed query is what its written text is read as. -/
theorem WellFormed.parse_write (wellFormed : query.WellFormed) :
    parse query.write = .ok (some query) := by
  have sentence : Sentence query.kinds query :=
    (wellFormedIn_false_iff.mpr wellFormed).written.disjunction
  obtain ⟨tokens, tokenized, sameKinds⟩ :=
    exists_tokenize_writeKinds fun _ => wellFormed.isName_of_mem_kinds
  refine (parse_eq_some_iff tokenized ?_).mpr (sameKinds ▸ sentence)
  rintro rfl
  exact sentence.kinds_ne_nil sameKinds.symm

end Written

/-- A text that is read as a query has the tokens of a sentence. -/
theorem exists_sentence_of_parse {text : String} {query : Query}
    (parsed : parse text = .ok (some query)) :
    ∃ tokens, tokenize text = .ok tokens ∧ Sentence (tokens.map Token.kind) query := by
  unfold parse at parsed
  split at parsed
  · cases parsed
  · split at parsed
    · cases parsed
    · rename_i tokens tokenized
      split at parsed
      · cases parsed
      · rename_i accepted
        cases parsed
        exact ⟨tokens, tokenized, ofTokens_eq_ok_iff.mp accepted⟩

/-- Every query that is read is well-formed. -/
theorem wellFormed_of_parse {text : String} {query : Query}
    (parsed : parse text = .ok (some query)) : query.WellFormed := by
  obtain ⟨tokens, tokenized, sentence⟩ := exists_sentence_of_parse parsed
  have named : NamesFields (tokens.map Token.kind) := fun name => isName_of_tokenize tokenized
  have formed : query.WellFormedIn false 0 := sentence.formed named (Nat.zero_le _)
  exact wellFormedIn_false_iff.mp formed

/-- A field over a term is well-formed, whatever the term says. -/
theorem wellFormed_of_field_term {name : String} (isName : IsName name) (value : String) :
    (Query.field name (.term value)).WellFormed := by
  have operand : (Query.term value).WellFormedIn true 0 :=
    wellFormedIn_term_iff.mpr ⟨rfl, Nat.zero_le _⟩
  exact wellFormedIn_false_iff.mp
    (wellFormedIn_field_iff.mpr ⟨isName, .inl ⟨value, rfl⟩, operand⟩)

/-- A well-formed query that does not compile has a term that is no pattern. -/
theorem WellFormed.compile_eq_error {engine : PatternEngine} {query : Query}
    (wellFormed : query.WellFormed) {error : SearchError}
    (failed : query.compile engine = .error error) :
    ∃ name value reason, ⟨some name, value⟩ ∈ query.terms ∧
      engine.compile value = .error reason ∧ error = .invalidPattern value reason := by
  obtain ⟨before, term, after, split, -, fails⟩ := compile_eq_error_iff.mp failed
  have isTerm : term ∈ query.terms := by simp [split]
  cases fails with
  | unscoped => exact absurd rfl (wellFormed.terms _ isTerm)
  | noPattern refused => exact ⟨_, _, _, isTerm, refused, rfl⟩

/-- The trees that texts are read as are exactly the well-formed ones. Every name of a field and
every value of a term can so be asked for, and a tree from a text can fail to compile only by
a term that is no pattern. -/
theorem parse_returns_wellFormed_queries (engine : PatternEngine) :
    (∀ query, (∃ text, parse text = .ok (some query)) ↔ query.WellFormed) ∧
    (∀ name value, IsName name →
      ∃ text, parse text = .ok (some (.field name (.term value)))) ∧
    ∀ text query, parse text = .ok (some query) →
      ∀ error, query.compile engine = .error error →
        ∃ name value reason, ⟨some name, value⟩ ∈ query.terms ∧
          engine.compile value = .error reason ∧ error = .invalidPattern value reason := by
  refine ⟨fun query => ⟨?_, fun wellFormed => ⟨_, wellFormed.parse_write⟩⟩, ?_, ?_⟩
  · rintro ⟨text, parsed⟩
    exact wellFormed_of_parse parsed
  · intro name value isName
    exact ⟨_, (wellFormed_of_field_term isName value).parse_write⟩
  · intro text query parsed error failed
    exact (wellFormed_of_parse parsed).compile_eq_error failed

/-- A name of blanks and marks can be asked for, and an empty term with it; a keyword cannot. -/
theorem parse_returns_oddly_named_query :
    (∃ text, parse text = .ok (some (.field " (:\"\\'" (.term "")))) ∧
    ¬ ∃ text, parse text = .ok (some (.field "And" (.term ""))) := by
  obtain ⟨exactly, named, -⟩ := parse_returns_wellFormed_queries .standard
  refine ⟨named _ "" ⟨by decide, by decide, by decide⟩, fun isRead => ?_⟩
  have wellFormed := wellFormedIn_false_iff.mpr ((exactly _).mp isRead)
  exact (wellFormedIn_field_iff.mp wellFormed).1.notAnd (by decide)

end Dashboard.Query
