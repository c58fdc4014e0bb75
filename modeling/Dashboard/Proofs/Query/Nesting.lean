import Dashboard.Proofs.Query.Grammar

/-!
# Open parentheses

Which parentheses stay open behind some tokens, and how many of them, whether or not the tokens
belong to a query. A derivation closes each parenthesis that it opens, so that a phrase which
nests below the deepest nesting can stand inside one more parenthesis.
-/

namespace Dashboard.Query

/-- What is open behind one more token: an opening parenthesis is open itself, and a closing one
closes the innermost of those that are open. -/
def nest (opened : List Token) (token : Token) : List Token :=
  match token.kind with
  | .openParenthesis => token :: opened
  | .closeParenthesis => opened.tail
  | .colon | .and | .or | .word _ | .quoted _ => opened

/-- The parentheses among some tokens that none of them closes, the innermost first. -/
def unclosed (tokens : List Token) : List Token := tokens.foldl nest []

/-- The tokens of a text have fewer than so many parentheses open at every point. -/
def NestsBelow (bound : Nat) (text : String) : Prop :=
  ∀ tokens, tokenize text = .ok tokens →
    ∀ front, front <+: tokens → (unclosed front).length < bound

/-- How many parentheses are open behind a token of some kind. -/
def countOpen (opened : Nat) : TokenKind → Nat
  | .openParenthesis => opened + 1
  | .closeParenthesis => opened - 1
  | .colon | .and | .or | .word _ | .quoted _ => opened

section Unclosed

variable {tokens : List Token} {token : Token}

theorem unclosed_append_singleton :
    unclosed (tokens ++ [token]) = nest (unclosed tokens) token := by
  simp [unclosed]

/-- A token changes the number of open brackets by one at most, as the count does. -/
theorem length_nest (opened : List Token) (token : Token) :
    (nest opened token).length = countOpen opened.length token.kind := by
  unfold nest
  cases token.kind <;> simp [countOpen]

/-- Only the kinds of tokens decide how many parentheses are open behind them. -/
theorem length_unclosed (tokens : List Token) :
    (unclosed tokens).length = (tokens.map Token.kind).foldl countOpen 0 := by
  have behind (opened : List Token) : (tokens.foldl nest opened).length =
      (tokens.map Token.kind).foldl countOpen opened.length := by
    induction tokens generalizing opened with
    | nil => rfl
    | cons token rest inductionHypothesis =>
      rw [List.foldl_cons, inductionHypothesis, length_nest, List.map_cons, List.foldl_cons]
  exact behind []

/-- No more brackets are left open than tokens were read. -/
theorem length_unclosed_le (tokens : List Token) : (unclosed tokens).length ≤ tokens.length := by
  have behind (opened : List Token) :
      (tokens.foldl nest opened).length ≤ opened.length + tokens.length := by
    induction tokens generalizing opened with
    | nil => exact Nat.le_refl _
    | cons token rest inductionHypothesis =>
      have bound := inductionHypothesis (nest opened token)
      have one : (nest opened token).length ≤ opened.length + 1 := by
        rw [length_nest]
        cases token.kind <;> simp [countOpen]
        omega
      rw [List.foldl_cons, List.length_cons]
      omega
  simpa [unclosed] using behind []

/-- What is open behind a token was open before, or is the token itself. -/
theorem mem_nest {opened : List Token} {other : Token} (isOpen : other ∈ nest opened token) :
    other ∈ opened ∨ other = token ∧ token.kind = .openParenthesis := by
  unfold nest at isOpen
  split at isOpen
  case h_1 opens =>
    rcases List.mem_cons.mp isOpen with isToken | isEarlier
    · exact .inr ⟨isToken, opens⟩
    · exact .inl isEarlier
  case h_2 => exact .inl (List.mem_of_mem_tail isOpen)
  all_goals exact .inl isOpen

/-- What stays open are some of the tokens, all of which open. -/
theorem mem_unclosed (isOpen : token ∈ unclosed tokens) :
    token ∈ tokens ∧ token.kind = .openParenthesis := by
  have behind (rest opened : List Token) (isOpen : token ∈ rest.foldl nest opened) :
      token ∈ opened ∨ token ∈ rest ∧ token.kind = .openParenthesis := by
    induction rest generalizing opened with
    | nil => exact .inl isOpen
    | cons next rest inductionHypothesis =>
      rcases inductionHypothesis (nest opened next) isOpen with isNest | ⟨isLater, opens⟩
      · rcases mem_nest isNest with isEarlier | ⟨rfl, opens⟩
        · exact .inl isEarlier
        · exact .inr ⟨List.mem_cons_self, opens⟩
      · exact .inr ⟨List.mem_cons_of_mem next isLater, opens⟩
  exact (behind tokens [] isOpen).resolve_left List.not_mem_nil

end Unclosed

/-- Inside some open parentheses, one more would fit around a run of kinds. -/
def HasRoom (opened : Nat) (kinds : List TokenKind) : Prop :=
  ∀ front, front <+: kinds → front.foldl countOpen opened < maxDepth

namespace HasRoom

variable {opened : Nat} {kinds more : List TokenKind}

/-- Where there is room, the depth is below the greatest one. -/
theorem below (room : HasRoom opened kinds) : opened < maxDepth :=
  room [] List.nil_prefix

theorem of_cons {kind : TokenKind} (room : HasRoom opened (kind :: kinds)) :
    HasRoom (countOpen opened kind) kinds :=
  fun front isFront => room (kind :: front) (List.cons_prefix_cons.mpr ⟨rfl, isFront⟩)

/-- Where there is room for a phrase, there is room for each of its parts. -/
theorem of_append (room : HasRoom opened (kinds ++ more)) :
    HasRoom opened kinds ∧ HasRoom (kinds.foldl countOpen opened) more := by
  refine ⟨fun front isFront => room front (isFront.trans (List.prefix_append _ _)),
    fun front isFront => ?_⟩
  rw [← List.foldl_append]
  exact room _ ((List.prefix_append_right_inj kinds).mpr isFront)

end HasRoom

namespace Derives

variable {opened : Nat} {phrase : Phrase} {kinds : List TokenKind}

/-- A derivation closes what it opens. -/
theorem foldl_countOpen (derivation : Derives opened phrase kinds) (around : Nat) :
    kinds.foldl countOpen around = around := by
  induction derivation generalizing around with
  | operandWord | operandQuoted | word | quoted => rfl
  | field _ inductionHypothesis => exact inductionHypothesis around
  | operandGroup _ _ inductionHypothesis | group _ _ inductionHypothesis =>
    simp [countOpen, inductionHypothesis]
  | firstConjunct _ inductionHypothesis | loneConjunct _ inductionHypothesis
  | manyConjuncts _ inductionHypothesis | firstClause _ inductionHypothesis
  | loneClause _ inductionHypothesis | manyClauses _ inductionHypothesis =>
    exact inductionHypothesis around
  | nextConjunct _ _ ofPrior ofLast | nextClause _ _ ofPrior ofLast =>
    simp [countOpen, ofPrior, ofLast]

/-- A phrase with room for one more parenthesis around it can stand inside one. -/
theorem deepen (derivation : Derives opened phrase kinds) (room : HasRoom opened kinds) :
    Derives (opened + 1) phrase kinds := by
  induction derivation with
  | operandWord => exact .operandWord
  | operandQuoted => exact .operandQuoted
  | word => exact .word
  | quoted => exact .quoted
  | field _ inductionHypothesis => exact .field (inductionHypothesis room.of_cons.of_cons)
  | operandGroup _ _ inductionHypothesis =>
    have inside := (HasRoom.of_append room).1.of_cons
    exact .operandGroup inside.below (inductionHypothesis inside)
  | group _ _ inductionHypothesis =>
    have inside := (HasRoom.of_append room).1.of_cons
    exact .group inside.below (inductionHypothesis inside)
  | firstConjunct _ inductionHypothesis => exact .firstConjunct (inductionHypothesis room)
  | loneConjunct _ inductionHypothesis => exact .loneConjunct (inductionHypothesis room)
  | manyConjuncts _ inductionHypothesis => exact .manyConjuncts (inductionHypothesis room)
  | firstClause _ inductionHypothesis => exact .firstClause (inductionHypothesis room)
  | loneClause _ inductionHypothesis => exact .loneClause (inductionHypothesis room)
  | manyClauses _ inductionHypothesis => exact .manyClauses (inductionHypothesis room)
  | nextConjunct prior _ ofPrior ofLast =>
    obtain ⟨before, behind⟩ := HasRoom.of_append room
    rw [prior.foldl_countOpen] at behind
    exact .nextConjunct (ofPrior before) (ofLast behind.of_cons)
  | nextClause prior _ ofPrior ofLast =>
    obtain ⟨before, behind⟩ := HasRoom.of_append room
    rw [prior.foldl_countOpen] at behind
    exact .nextClause (ofPrior before) (ofLast behind.of_cons)

end Derives

end Dashboard.Query
