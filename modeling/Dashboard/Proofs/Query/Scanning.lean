import Dashboard.Proofs.Query.Spelling

/-!
# What the scanner keeps of a text

Where the scanner stands behind some characters, and which tokens they complete, does not depend
on the offset they start at. Behind a text it waits for a character to keep exactly when the text
ends in a backslash that keeps none, and it fails exactly for a quote that nothing closes.
-/

namespace Dashboard.Query.Token

open Text.Utf8 (width widths)

/-- The mode behind some characters, and the tokens that they complete, last first. -/
def through (mode : Mode) (offset : Nat) : List Char → Mode × List Token
  | [] => (mode, [])
  | character :: rest =>
    let stepped := step mode offset character
    let behind := through stepped.1 (offset + width character) rest
    (behind.1, behind.2 ++ stepped.2)

theorem widths_singleton (character : Char) : widths [character] = width character := by
  simp [widths]

theorem widths_cons (character : Char) (rest : List Char) :
    widths (character :: rest) = width character + widths rest := by
  rw [← widths_singleton, ← widths_append, List.singleton_append]

/-- Any piece of a text is scanned to the mode and the tokens behind it. -/
theorem scans_through (mode : Mode) (offset : Nat) (piece : List Char) :
    Scans mode offset piece (through mode offset piece).1 (through mode offset piece).2 := by
  induction piece generalizing mode offset with
  | nil => exact scans_nil
  | cons character rest inductionHypothesis =>
    have first : Scans mode offset [character] (step mode offset character).1
        (step mode offset character).2 := scans_step rfl
    have further := inductionHypothesis (step mode offset character).1 (offset + widths [character])
    simpa only [through, widths_singleton, List.singleton_append] using first.append further

/-- A text has the tokens that its characters complete, and those that its end completes. -/
theorem tokenize_eq (text : String) :
    tokenize text = match finish (through .between 0 text.toList).1 with
      | .ok last => .ok (last ++ (through .between 0 text.toList).2).reverse
      | .error error => .error error := by
  have scanned := scans_through .between 0 text.toList [] []
  rw [List.append_nil, List.append_nil] at scanned
  exact scanned

/-- The tokens of a text are those completed along it, and those that its end completes. -/
theorem tokenize_eq_ok {text : String} {tokens : List Token}
    (tokenized : tokenize text = .ok tokens) :
    ∃ last, finish (through .between 0 text.toList).1 = .ok last ∧
      tokens = (last ++ (through .between 0 text.toList).2).reverse := by
  rw [tokenize_eq] at tokenized
  split at tokenized
  · rename_i last finished
    cases tokenized
    exact ⟨last, finished, rfl⟩
  · cases tokenized

section Moved

variable {kind : TokenKind} {mode : Mode} {distance offset : Nat} {character : Char}

/-- The same token further behind. -/
def moved (distance : Nat) (token : Token) : Token := ⟨token.kind, token.offset + distance⟩

/-- The same mode with its token further behind. -/
def Mode.moved (distance : Nat) : Mode → Mode
  | .between => .between
  | .word start reversed escaped => .word (start + distance) reversed escaped
  | .quoted quote start reversed escaped => .quoted quote (start + distance) reversed escaped

/-- Between two tokens, a step depends on its offset by the places of its tokens alone. -/
theorem begin_moved (distance offset : Nat) (character : Char) :
    begin (offset + distance) character =
      ((begin offset character).1.moved distance,
        (begin offset character).2.map (moved distance)) := by
  unfold begin
  split
  · rfl
  · split
    · rfl
    · split
      · rfl
      · split <;> rfl

/-- A step depends on its offset by the places of its tokens alone. -/
theorem step_moved (mode : Mode) (distance offset : Nat) (character : Char) :
    step (mode.moved distance) (offset + distance) character =
      ((step mode offset character).1.moved distance,
        (step mode offset character).2.map (moved distance)) := by
  cases mode with
  | between => exact begin_moved distance offset character
  | word start reversed escaped =>
    cases escaped with
    | true => rfl
    | false =>
      simp only [step, Mode.moved, begin_moved]
      split
      · simp [moved]
      · split <;> rfl
  | quoted quote start reversed escaped =>
    cases escaped with
    | true => rfl
    | false =>
      simp only [step, Mode.moved]
      split
      · rfl
      · split <;> rfl

/-- A piece of text that stands further behind completes the same tokens further behind. -/
theorem through_moved (mode : Mode) (distance offset : Nat) (piece : List Char) :
    through (mode.moved distance) (offset + distance) piece =
      ((through mode offset piece).1.moved distance,
        (through mode offset piece).2.map (moved distance)) := by
  induction piece generalizing mode offset with
  | nil => rfl
  | cons character rest inductionHypothesis =>
    have further : offset + distance + width character = offset + width character + distance := by
      omega
    simp only [through, step_moved, further, inductionHypothesis, List.map_append]

end Moved

/-- Some characters end in a backslash that keeps no character. Every other backslash keeps the
one behind it, which then means nothing else. -/
def dangles : List Char → Bool
  | [] => false
  | ['\\'] => true
  | '\\' :: _ :: rest => dangles rest
  | _ :: rest => dangles rest

/-- Whether a backslash directly precedes, which keeps the next character as it is. -/
def Mode.keeps : Mode → Bool
  | .between => false
  | .word _ _ escaped | .quoted _ _ _ escaped => escaped

section Dangling

/-- Between two tokens, a backslash alone keeps the next character. -/
theorem keeps_begin (offset : Nat) (character : Char) :
    (begin offset character).1.keeps = decide (character = '\\') := by
  unfold begin
  split
  · rename_i blank
    have other : character ≠ '\\' := by
      rintro rfl
      cases blank
    simp [Mode.keeps, other]
  · split
    · rename_i kind isKind
      have other : character ≠ '\\' := by
        rintro rfl
        cases isKind
      simp [Mode.keeps, other]
    · split
      · rename_i quotes
        have other : character ≠ '\\' := by
          rintro rfl
          cases quotes
        simp [Mode.keeps, other]
      · split <;> simp_all [Mode.keeps]

/-- A backslash is applied to the next character, unless it is kept itself. -/
theorem keeps_step (mode : Mode) (offset : Nat) (character : Char) :
    (step mode offset character).1.keeps = (!mode.keeps && decide (character = '\\')) := by
  cases mode with
  | between => exact keeps_begin offset character
  | word start reversed escaped =>
    cases escaped with
    | true => rfl
    | false =>
      unfold step
      dsimp only
      split
      · exact keeps_begin offset character
      · split <;> simp_all [Mode.keeps]
  | quoted quote start reversed escaped =>
    cases escaped with
    | true => rfl
    | false =>
      unfold step
      dsimp only
      split
      · simp_all [Mode.keeps]
      · split <;> simp_all [Mode.keeps]

/-- Behind some characters a backslash is still to be applied exactly when they dangle. -/
theorem keeps_through {mode : Mode} (settled : mode.keeps = false) (offset : Nat)
    (piece : List Char) : (through mode offset piece).1.keeps = dangles piece := by
  induction piece using dangles.induct generalizing mode offset with
  | case1 => exact settled
  | case2 => simp [through, keeps_step, settled, dangles]
  | case3 kept rest inductionHypothesis =>
    have applied : (step (step mode offset '\\').1 (offset + width '\\') kept).1.keeps = false := by
      simp [keeps_step, settled]
    exact inductionHypothesis applied _
  | case4 character rest notLast notKeeping inductionHypothesis =>
    have other : character ≠ '\\' := by
      rintro rfl
      cases rest with
      | nil => exact notLast rfl rfl
      | cons kept rest => exact notKeeping kept rest rfl rfl
    have free : (step mode offset character).1.keeps = false := by simp [keeps_step, other]
    rw [dangles]
    · exact inductionHypothesis free _
    · exact notLast
    · exact notKeeping

end Dangling

/-- Some characters close no quote of a kind: each quote among them is kept by a backslash. -/
inductive Unclosed (quote : Char) : List Char → Prop where
  | nil : Unclosed quote []
  | dangling : Unclosed quote ['\\']
  | kept {character rest} (further : Unclosed quote rest) :
      Unclosed quote ('\\' :: character :: rest)
  | other {character rest} (noBackslash : character ≠ '\\') (noQuote : character ≠ quote)
      (further : Unclosed quote rest) : Unclosed quote (character :: rest)

/-- From a mode and an offset on, some characters open a quoted text at a position, with a quote
that stands between two tokens, and do not close it. -/
inductive LeavesOpen (mode : Mode) (offset : Nat) : List Char → Nat → Prop where
  | intro {front quote back completed} (scans : Scans mode offset front .between completed)
      (quotes : isQuote quote = true) (unclosed : Unclosed quote back) :
      LeavesOpen mode offset (front ++ quote :: back) (offset + widths front)

/-- A mode is in a quoted text that some characters do not close. -/
inductive Mode.IsOpen (quote : Char) (start : Nat) (characters : List Char) : Mode → Prop where
  | plain {reversed} (unclosed : Unclosed quote characters) :
      IsOpen quote start characters (.quoted quote start reversed false)
  | keeping {reversed} (unclosed : Unclosed quote ('\\' :: characters)) :
      IsOpen quote start characters (.quoted quote start reversed true)

section Failure

variable {mode : Mode} {offset start : Nat} {character quote : Char} {reversed : List Char}
  {escaped : Bool}

/-- Between two tokens only a quote starts a quoted text. -/
theorem quoted_of_begin
    (begun : (begin offset character).1 = .quoted quote start reversed escaped) :
    isQuote character = true ∧ quote = character ∧ start = offset ∧ escaped = false := by
  unfold begin at begun
  split at begun
  · cases begun
  · split at begun
    · cases begun
    · split at begun
      · rename_i quotes
        cases begun
        exact ⟨quotes, rfl, rfl, rfl⟩
      · split at begun <;> cases begun

/-- What ends a word starts no quoted text. -/
theorem begin_of_ends (ends : (Text.isBlank character || (punctuation? character).isSome) = true) :
    (begin offset character).1 = .between := by
  unfold begin
  split
  · rfl
  · split
    · rfl
    · simp_all

/-- How one character leads into a quoted text or further through it. -/
inductive QuoteStep (offset : Nat) (character quote : Char) (start : Nat) : Mode → Bool → Prop where
  | opens (quotes : isQuote character = true) (isQuote : quote = character)
      (here : start = offset) : QuoteStep offset character quote start .between false
  | keeps {before} : QuoteStep offset character quote start (.quoted quote start before true) false
  | backslash {before} (isBackslash : character = '\\') :
      QuoteStep offset character quote start (.quoted quote start before false) true
  | other {before} (noBackslash : character ≠ '\\') (noQuote : character ≠ quote) :
      QuoteStep offset character quote start (.quoted quote start before false) false

/-- Every step that ends in a quoted text starts it or goes on with it. -/
theorem quoteStep_of_step
    (stepped : (step mode offset character).1 = .quoted quote start reversed escaped) :
    QuoteStep offset character quote start mode escaped := by
  cases mode with
  | between =>
    obtain ⟨quotes, isQuote, here, rfl⟩ := quoted_of_begin stepped
    exact .opens quotes isQuote here
  | word wordStart word kept =>
    cases kept with
    | true => cases stepped
    | false =>
      unfold step at stepped
      dsimp only at stepped
      split at stepped
      · rename_i ends
        rw [begin_of_ends ends] at stepped
        cases stepped
      · split at stepped <;> cases stepped
  | quoted other otherStart word kept =>
    cases kept with
    | true =>
      cases stepped
      exact .keeps
    | false =>
      unfold step at stepped
      dsimp only at stepped
      split at stepped
      · rename_i isBackslash
        cases stepped
        exact .backslash isBackslash
      · split at stepped
        · cases stepped
        · rename_i noBackslash noQuote
          cases stepped
          exact .other noBackslash noQuote

/-- What is left open behind the first character is left open from it on. -/
theorem LeavesOpen.cons {rest : List Char} {position : Nat}
    (leaves : LeavesOpen (step mode offset character).1 (offset + width character) rest position) :
    LeavesOpen mode offset (character :: rest) position := by
  cases leaves with
  | @intro front quote back completed scans quotes unclosed =>
    have first : Scans mode offset [character] (step mode offset character).1
        (step mode offset character).2 := scans_step rfl
    rw [← widths_singleton] at scans
    have whole := LeavesOpen.intro (first.append scans) quotes unclosed
    rwa [widths_append, widths_singleton, ← Nat.add_assoc] at whole

/-- A mode that is in a quoted text behind one more character was in it before, or the character
opened it. -/
theorem Mode.IsOpen.of_step {rest : List Char}
    (isOpen : (step mode offset character).1.IsOpen quote start rest) :
    mode.IsOpen quote start (character :: rest) ∨
      LeavesOpen mode offset (character :: rest) start := by
  have before {reversed escaped}
      (stepped : (step mode offset character).1 = .quoted quote start reversed escaped)
      (unclosed : Unclosed quote (if escaped then '\\' :: rest else rest)) :
      mode.IsOpen quote start (character :: rest) ∨
        LeavesOpen mode offset (character :: rest) start := by
    cases quoteStep_of_step stepped with
    | opens quotes isQuote here =>
      subst isQuote here
      exact .inr (.intro scans_nil quotes unclosed)
    | keeps => exact .inl (.keeping (.kept unclosed))
    | backslash isBackslash =>
      subst isBackslash
      exact .inl (.plain unclosed)
    | other noBackslash noQuote => exact .inl (.plain (.other noBackslash noQuote unclosed))
  generalize stepped : (step mode offset character).1 = next at isOpen
  cases isOpen with
  | plain unclosed => exact before stepped (by simpa using unclosed)
  | keeping unclosed => exact before stepped (by simpa using unclosed)

/-- A quoted text that goes on behind some characters was open before them, or they open it. -/
theorem isOpen_or_leavesOpen {piece : List Char}
    (ended : (through mode offset piece).1 = .quoted quote start reversed escaped) :
    mode.IsOpen quote start piece ∨ LeavesOpen mode offset piece start := by
  induction piece generalizing mode offset with
  | nil =>
    left
    rw [show mode = _ from ended]
    cases escaped with
    | false => exact .plain .nil
    | true => exact .keeping .dangling
  | cons character rest inductionHypothesis =>
    rcases inductionHypothesis ended with isOpen | leaves
    · exact isOpen.of_step
    · exact .inr leaves.cons

/-- The scanner fails only for a quote that opens between two tokens and is not closed. -/
theorem leavesOpen_of_tokenize {text : String} {error : SyntaxError}
    (failed : tokenize text = .error error) :
    ∃ position, error = ⟨.unterminatedQuote, position⟩ ∧
      LeavesOpen .between 0 text.toList position := by
  rw [tokenize_eq] at failed
  generalize ended : (through .between 0 text.toList).1 = final at failed
  cases final with
  | between | word _ _ _ => cases failed
  | quoted quote start reversed escaped =>
    cases failed
    refine ⟨start, rfl, ?_⟩
    rcases isOpen_or_leavesOpen ended with isOpen | leaves
    · cases isOpen
    · exact leaves

/-- A quoted text goes on to the end of characters that do not close it. -/
theorem scan_unclosed (unclosed : Unclosed quote piece) (tokens : List Token) :
    scan (.quoted quote start reversed false) offset tokens piece =
      .error ⟨.unterminatedQuote, start⟩ := by
  induction unclosed generalizing offset reversed with
  | nil | dangling => rfl
  | kept further inductionHypothesis => exact inductionHypothesis
  | other noBackslash noQuote further inductionHypothesis =>
    rw [scan, step, if_neg noBackslash, if_neg noQuote]
    exact inductionHypothesis

/-- Between two tokens, a quote opens a quoted text. -/
theorem step_quote (quotes : isQuote quote = true) :
    step .between offset quote = (.quoted quote offset [] false, []) := by
  rcases by simpa [isQuote] using quotes with rfl | rfl <;> rfl

/-- The scanner fails exactly for a quote that it reaches between two tokens and that is not closed
behind, and tells where the quote stands. -/
theorem tokenize_eq_error_iff {text : String} {error : SyntaxError} :
    tokenize text = .error error ↔
      ∃ position, error = ⟨.unterminatedQuote, position⟩ ∧
        LeavesOpen .between 0 text.toList position := by
  refine ⟨leavesOpen_of_tokenize, ?_⟩
  rintro ⟨position, rfl, leaves⟩
  rw [tokenize]
  generalize text.toList = characters at leaves ⊢
  cases leaves with
  | intro scans quotes unclosed =>
    rw [scans, scan, step_quote quotes]
    exact scan_unclosed unclosed _

end Failure

section Offsets

theorem width_pos (character : Char) : 0 < width character := by
  unfold width
  split
  · omega
  · split
    · omega
    · split <;> omega

/-- The token that a mode is in starts before an offset. -/
def Mode.StartsBefore (offset : Nat) : Mode → Prop
  | .between => True
  | .word start _ _ | .quoted _ start _ _ => start < offset

/-- A mode, and tokens that start before an offset. -/
structure StartBefore (offset : Nat) (behind : Mode × List Token) : Prop where
  mode : behind.1.StartsBefore offset
  tokens : ∀ token ∈ behind.2, token.offset < offset

/-- A token that starts with a character starts before the offset behind it. -/
theorem startBefore_begin (offset : Nat) (character : Char) :
    StartBefore (offset + width character) (begin offset character) := by
  have further := width_pos character
  unfold begin
  split
  · exact ⟨trivial, by simp⟩
  · split
    · exact ⟨trivial, by simpa using further⟩
    · split
      · exact ⟨Nat.lt_add_of_pos_right further, by simp⟩
      · split <;> exact ⟨Nat.lt_add_of_pos_right further, by simp⟩

/-- Each token that a character completes, or goes on with, starts before the next one. -/
theorem startBefore_step {mode : Mode} {offset : Nat} (earlier : mode.StartsBefore offset)
    (character : Char) : StartBefore (offset + width character) (step mode offset character) := by
  have later {start : Nat} (before : start < offset) : start < offset + width character := by
    omega
  cases mode with
  | between => exact startBefore_begin offset character
  | word start reversed escaped =>
    cases escaped with
    | true => exact ⟨later earlier, by simp [step]⟩
    | false =>
      unfold step
      dsimp only
      split
      · obtain ⟨begun, tokens⟩ := startBefore_begin offset character
        refine ⟨begun, fun token isToken => ?_⟩
        rcases List.mem_append.mp isToken with isNext | isFinished
        · exact tokens token isNext
        · cases List.mem_singleton.mp isFinished
          exact later earlier
      · split <;> exact ⟨later earlier, by simp⟩
  | quoted quote start reversed escaped =>
    cases escaped with
    | true => exact ⟨later earlier, by simp [step]⟩
    | false =>
      unfold step
      dsimp only
      split
      · exact ⟨later earlier, by simp⟩
      · split
        · exact ⟨trivial, by simpa using later earlier⟩
        · exact ⟨later earlier, by simp⟩

/-- Along a piece of a text, every token starts before the end of the piece. -/
theorem startBefore_through {mode : Mode} {offset : Nat} (earlier : mode.StartsBefore offset)
    (piece : List Char) :
    StartBefore (offset + widths piece) (through mode offset piece) := by
  induction piece generalizing mode offset with
  | nil => exact ⟨earlier, by simp [through]⟩
  | cons character rest inductionHypothesis =>
    obtain ⟨stepped, tokens⟩ := startBefore_step earlier character
    obtain ⟨final, more⟩ := inductionHypothesis stepped
    rw [widths_cons, ← Nat.add_assoc]
    refine ⟨final, fun token isToken => ?_⟩
    rcases List.mem_append.mp isToken with isLater | isCompleted
    · exact more token isLater
    · have bound := tokens token isCompleted
      omega

/-- Every token of a text starts before its end. -/
theorem offset_lt_of_tokenize {text : String} {tokens : List Token}
    (tokenized : tokenize text = .ok tokens) :
    ∀ token ∈ tokens, token.offset < widths text.toList := by
  obtain ⟨last, finished, rfl⟩ := tokenize_eq_ok tokenized
  have begun : Mode.between.StartsBefore 0 := trivial
  obtain ⟨final, completed⟩ := startBefore_through begun text.toList
  rw [Nat.zero_add] at final completed
  intro token isToken
  rcases List.mem_append.mp (List.mem_reverse.mp isToken) with isLast | isCompleted
  · generalize (through .between 0 text.toList).1 = ended at finished final
    cases ended with
    | between =>
      cases finished
      cases isLast
    | word start reversed escaped =>
      cases finished
      cases List.mem_singleton.mp isLast
      exact final
    | quoted _ _ _ _ => cases finished
  · exact completed token isCompleted

end Offsets

end Dashboard.Query.Token
