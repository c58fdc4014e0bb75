import Dashboard.Query.Token

/-!
# How tokens are written

A query text can write every token: a word with a backslash before each of its characters,
a quoted text with one before its quote character and before every backslash. Pieces of text
that are written so, with a space between any two, are tokenized as they were meant. A
tokenized text in turn has no keyword and no empty word but a last one, so that what stands
before a colon is always the name of a field.
-/

namespace Dashboard.Query

/-- A text that can name a field: not empty, and no keyword in any case. -/
structure IsName (text : String) : Prop where
  nonempty : text ≠ ""
  notAnd : Text.asciiLowercase text ≠ "and"
  notOr : Text.asciiLowercase text ≠ "or"

namespace Token

/-- A character that stands for itself in a word. -/
structure IsPlain (character : Char) : Prop where
  noBlank : Text.isBlank character = false
  noPunctuation : punctuation? character = none
  noQuote : isQuote character = false
  noBackslash : character ≠ '\\'

/-- The characters of a word, each behind a backslash. -/
def escaped (characters : List Char) : List Char :=
  characters.flatMap fun character => ['\\', character]

/-- The characters of a quoted text, with a backslash before its quote character and before
every backslash. -/
def escapedIn (quote : Char) (characters : List Char) : List Char :=
  characters.flatMap fun character =>
    if character = quote ∨ character = '\\' then ['\\', character] else [character]

/-- How a kind of token is written. -/
inductive Spells : TokenKind → List Char → Prop where
  | openParenthesis : Spells .openParenthesis ['(']
  | closeParenthesis : Spells .closeParenthesis [')']
  | colon : Spells .colon [':']
  | and {characters} (keyword : Text.asciiLowercase (String.ofList characters) = "and") :
      Spells .and characters
  | or {characters} (keyword : Text.asciiLowercase (String.ofList characters) = "or") :
      Spells .or characters
  | word {text} (isName : IsName text) : Spells (.word text) (escaped text.toList)
  | quoted {quote text} (quotes : isQuote quote = true) :
      Spells (.quoted text) (quote :: (escapedIn quote text.toList ++ [quote]))

section Kinds

variable {characters : List Char} {text : String}

/-- The comparison without case compares the lowercase forms. -/
theorem equalIgnoringAsciiCase_iff (characters : List Char) {keyword : List Char}
    (isLower : keyword.map Text.asciiLower = keyword) :
    Text.equalIgnoringAsciiCase characters keyword = true ↔
      Text.asciiLowercase (String.ofList characters) = String.ofList keyword := by
  simp [Text.equalIgnoringAsciiCase, Text.asciiLowercase, isLower, String.ofList_inj]

/-- The characters of a keyword, a word or neither give the kind of a finished word. -/
theorem wordKind_eq (characters : List Char) :
    wordKind characters =
      if Text.asciiLowercase (String.ofList characters) = "and" then .and
      else if Text.asciiLowercase (String.ofList characters) = "or" then .or
      else .word (String.ofList characters) := by
  have andStays : ['a', 'n', 'd'].map Text.asciiLower = ['a', 'n', 'd'] := rfl
  have orStays : ['o', 'r'].map Text.asciiLower = ['o', 'r'] := rfl
  simp only [wordKind, equalIgnoringAsciiCase_iff characters andStays,
    equalIgnoringAsciiCase_iff characters orStays]

/-- A name is the word that it says, and no operator. -/
theorem wordKind_of_isName (isName : IsName text) : wordKind text.toList = .word text := by
  rw [wordKind_eq, String.ofList_toList, if_neg isName.notAnd, if_neg isName.notOr]

/-- What is scanned to a word is a name. -/
theorem isName_of_wordKind (nonempty : characters ≠ [])
    (isWord : wordKind characters = .word text) : IsName text := by
  rw [wordKind_eq] at isWord
  split at isWord
  · cases isWord
  · rename_i notAnd
    split at isWord
    · cases isWord
    · rename_i notOr
      cases isWord
      exact ⟨by simpa using nonempty, notAnd, notOr⟩

end Kinds

/-- Over a piece of text the scanner gets from one mode to another and completes some tokens,
last first. -/
def Scans (mode : Mode) (offset : Nat) (piece : List Char) (next : Mode)
    (completed : List Token) : Prop :=
  ∀ reversed rest, scan mode offset reversed (piece ++ rest) =
    scan next (offset + Text.Utf8.widths piece) (completed ++ reversed) rest

section Pieces

open Text.Utf8 (width widths)

variable {mode middle next : Mode} {offset start : Nat} {first second : List Token}
  {before piece reversed : List Char} {character quote : Char}

theorem widths_append (front back : List Char) :
    widths (front ++ back) = widths front + widths back := by
  have shifted (total : Nat) (characters : List Char) :
      characters.foldl (fun total character => total + width character) total =
        total + widths characters := by
    induction characters generalizing total with
    | nil => rfl
    | cons character rest inductionHypothesis =>
      rw [widths, List.foldl_cons, List.foldl_cons, inductionHypothesis, inductionHypothesis]
      omega
  rw [widths, List.foldl_append, shifted]
  rfl

theorem scans_nil : Scans mode offset [] mode [] := fun _ _ => rfl

/-- Scans of two pieces, the second from where the first one ends, scan both together. -/
theorem Scans.append (scanned : Scans mode offset before middle first)
    (further : Scans middle (offset + widths before) piece next second) :
    Scans mode offset (before ++ piece) next (second ++ first) := by
  intro reversed rest
  rw [List.append_assoc, scanned, further, widths_append]
  simp [Nat.add_assoc]

theorem scans_step (stepped : step mode offset character = (next, first)) :
    Scans mode offset [character] next first := by
  intro reversed rest
  simp [scan, stepped, widths]

/-- A character that completes nothing, before more of its token. -/
theorem scans_cons (stepped : step mode offset character = (middle, []))
    (further : Scans middle (offset + width character) piece next second) :
    Scans mode offset (character :: piece) next second := by
  have whole := (scans_step stepped).append (by simpa [widths] using further)
  rwa [List.append_nil] at whole

/-- Inside a word, escaped characters are added as they are. -/
theorem scans_escaped (characters : List Char) :
    Scans (.word start reversed false) offset (escaped characters)
      (.word start (characters.reverse ++ reversed) false) [] := by
  induction characters generalizing offset reversed with
  | nil => exact scans_nil
  | cons character rest inductionHypothesis =>
    have backslash : step (.word start reversed false) offset '\\' =
        (.word start reversed true, []) := rfl
    simp only [List.reverse_cons, List.append_assoc, List.singleton_append]
    exact scans_cons backslash (scans_cons rfl inductionHypothesis)

/-- Inside a word, plain characters are added as they are. -/
theorem scans_plain (plain : ∀ character ∈ piece, IsPlain character) :
    Scans (.word start reversed false) offset piece
      (.word start (piece.reverse ++ reversed) false) [] := by
  induction piece generalizing offset reversed with
  | nil => exact scans_nil
  | cons character rest inductionHypothesis =>
    obtain ⟨isPlain, others⟩ := List.forall_mem_cons.mp plain
    simp only [List.reverse_cons, List.append_assoc, List.singleton_append]
    refine scans_cons ?_ (inductionHypothesis others)
    simp [step, isPlain.noBlank, isPlain.noPunctuation, isPlain.noBackslash]

/-- Inside a quoted text, escaped characters are added as they are. -/
theorem scans_escapedIn (characters : List Char) :
    Scans (.quoted quote start reversed false) offset (escapedIn quote characters)
      (.quoted quote start (characters.reverse ++ reversed) false) [] := by
  induction characters generalizing offset reversed with
  | nil => exact scans_nil
  | cons character rest inductionHypothesis =>
    simp only [List.reverse_cons, List.append_assoc, List.singleton_append, escapedIn,
      List.flatMap_cons]
    split
    · exact scans_cons rfl (scans_cons rfl inductionHypothesis)
    · rename_i other
      rw [not_or] at other
      exact scans_cons (by simp [step, other]) inductionHypothesis

/-- Between two tokens, escaped characters start a word. -/
theorem scans_word (characters : List Char) :
    Scans .between offset (escaped (character :: characters))
      (.word offset (character :: characters).reverse false) [] := by
  have backslash : step .between offset '\\' = (.word offset [] true, []) := rfl
  rw [List.reverse_cons]
  exact scans_cons backslash (scans_cons rfl (scans_escaped characters))

/-- Between two tokens, plain characters start a word. -/
theorem scans_keyword (plain : ∀ other ∈ character :: piece, IsPlain other) :
    Scans .between offset (character :: piece)
      (.word offset (character :: piece).reverse false) [] := by
  obtain ⟨isPlain, others⟩ := List.forall_mem_cons.mp plain
  rw [List.reverse_cons]
  refine scans_cons ?_ (scans_plain others)
  simp [step, begin, isPlain.noBlank, isPlain.noPunctuation, isPlain.noQuote, isPlain.noBackslash]

/-- Quoted characters are scanned to the one token that says them. -/
theorem scans_quoted (quotes : isQuote quote = true) (characters : List Char) :
    Scans .between offset (quote :: (escapedIn quote characters ++ [quote])) .between
      [⟨.quoted (String.ofList characters), offset⟩] := by
  have opens : step .between offset quote = (.quoted quote offset [] false, []) := by
    rcases by simpa [isQuote] using quotes with rfl | rfl <;> rfl
  have closes (place : Nat) : step (.quoted quote offset characters.reverse false) place quote =
      (.between, [⟨.quoted (String.ofList characters), offset⟩]) := by
    rcases by simpa [isQuote] using quotes with rfl | rfl <;> simp [step]
  have inside : Scans (.quoted quote offset [] false) (offset + width quote)
      (escapedIn quote characters) (.quoted quote offset (characters.reverse ++ []) false) [] :=
    scans_escapedIn characters
  rw [List.append_nil] at inside
  exact scans_cons opens (inside.append (scans_step (closes _)))

end Pieces

section Spelled

open Text.Utf8 (width widths)

variable {kind : TokenKind} {offset start : Nat} {reversed : List Token}
  {piece characters rest : List Char}

/-- A letter of a keyword stands for itself in either case. -/
theorem isPlain_of_asciiLower {character : Char}
    (isLetter : Text.asciiLower character ∈ ['a', 'n', 'd', 'o', 'r']) : IsPlain character := by
  have ascii : character.toNat < 0x80 := by
    unfold Text.asciiLower at isLetter
    split at isLetter
    · rename_i isUpper
      have below : character.toNat ≤ 'Z'.toNat := isUpper.2
      exact Nat.lt_of_le_of_lt below (by decide)
    · have letters : ∀ letter ∈ ['a', 'n', 'd', 'o', 'r'], letter.toNat < 0x80 := by simp
      exact letters character isLetter
  have each : ∀ code < 0x80, Text.asciiLower (Char.ofNat code) ∈ ['a', 'n', 'd', 'o', 'r'] →
      Text.isBlank (Char.ofNat code) = false ∧ punctuation? (Char.ofNat code) = none ∧
        isQuote (Char.ofNat code) = false ∧ Char.ofNat code ≠ '\\' := by decide +kernel
  have plain := each character.toNat ascii
  rw [Char.ofNat_toNat] at plain
  obtain ⟨noBlank, noPunctuation, noQuote, noBackslash⟩ := plain isLetter
  exact ⟨noBlank, noPunctuation, noQuote, noBackslash⟩

/-- The letters of a keyword are plain in either case. -/
theorem isPlain_of_keyword {keyword : String}
    (lower : Text.asciiLowercase (String.ofList piece) = keyword)
    (letters : ∀ letter ∈ keyword.toList, letter ∈ ['a', 'n', 'd', 'o', 'r']) :
    ∀ character ∈ piece, IsPlain character := by
  intro character isPart
  refine isPlain_of_asciiLower (letters _ ?_)
  simp only [← lower, Text.asciiLowercase, String.toList_ofList]
  exact List.mem_map_of_mem isPart

/-- Blanks between two tokens complete none. -/
theorem scan_blanks {blank : List Char}
    (blanks : ∀ character ∈ blank, Text.isBlank character = true) (offset : Nat)
    (reversed : List Token) : scan .between offset reversed blank = .ok reversed.reverse := by
  induction blank generalizing offset with
  | nil => simp [scan, finish]
  | cons character rest inductionHypothesis =>
    obtain ⟨isBlank, others⟩ := List.forall_mem_cons.mp blanks
    have onlyBlank : step .between offset character = (.between, []) := by
      simp [step, begin, isBlank]
    rw [scan, onlyBlank]
    exact inductionHypothesis others _

/-- What stands behind a word ends it: a blank, a punctuation or the end of the text. -/
def EndsWord (rest : List Char) : Prop :=
  ∀ character ∈ rest.head?, (Text.isBlank character || (punctuation? character).isSome) = true

theorem endsWord_nil : EndsWord [] := by simp [EndsWord]

theorem endsWord_cons {character : Char}
    (ends : (Text.isBlank character || (punctuation? character).isSome) = true) :
    EndsWord (character :: rest) := by
  simpa [EndsWord] using ends

/-- An ended word is a token, and what ends it is read between two tokens. -/
theorem scan_word_ended (ends : EndsWord rest) :
    scan (.word start characters false) offset reversed rest =
      scan .between offset (⟨wordKind characters.reverse, start⟩ :: reversed) rest := by
  cases rest with
  | nil => simp [scan, finish]
  | cons character behind =>
    have isEnd := ends character rfl
    simp [scan, step, isEnd]

/-- A word is completed by what ends it. -/
theorem scan_word (scanned : Scans .between offset piece (.word offset characters.reverse false) [])
    (ends : EndsWord rest) :
    scan .between offset reversed (piece ++ rest) =
      scan .between (offset + widths piece) (⟨wordKind characters, offset⟩ :: reversed) rest := by
  rw [scanned, List.nil_append, scan_word_ended ends, List.reverse_reverse]

/-- A written token is read back, up to what ends a word. -/
theorem scan_spells (spells : Spells kind piece) (ends : EndsWord rest) :
    scan .between offset reversed (piece ++ rest) =
      scan .between (offset + widths piece) (⟨kind, offset⟩ :: reversed) rest := by
  cases spells with
  | openParenthesis | closeParenthesis | colon => exact scans_step rfl reversed rest
  | and keyword =>
    cases piece with
    | nil => exact absurd keyword (by decide)
    | cons first others =>
      have plain := isPlain_of_keyword keyword (by simp)
      rw [scan_word (scans_keyword plain) ends, wordKind_eq, if_pos keyword]
  | or keyword =>
    cases piece with
    | nil => exact absurd keyword (by decide)
    | cons first others =>
      have plain := isPlain_of_keyword keyword (by simp)
      have notAnd : Text.asciiLowercase (String.ofList (first :: others)) ≠ "and" := by
        rw [keyword]
        decide
      rw [scan_word (scans_keyword plain) ends, wordKind_eq, if_neg notAnd, if_pos keyword]
  | @word text isName =>
    cases split : text.toList with
    | nil => exact absurd (String.toList_eq_nil_iff.mp split) isName.nonempty
    | cons first others =>
      rw [scan_word (scans_word others) ends, ← split, wordKind_of_isName isName]
  | @quoted quote text quotes =>
    simpa using scans_quoted quotes text.toList reversed rest

end Spelled

end Token

/-- Pieces of text behind each other, with a space between any two. -/
def spaced : List (List Char) → List Char
  | [] => []
  | [piece] => piece
  | piece :: next :: rest => piece ++ ' ' :: spaced (next :: rest)

/-- The tokens of pieces of text from an offset on, each where its piece starts. -/
def tokensAt (offset : Nat) : List (TokenKind × List Char) → List Token
  | [] => []
  | (kind, piece) :: rest =>
    ⟨kind, offset⟩ :: tokensAt (offset + Text.Utf8.widths piece + 1) rest

/-- Spellings with a space between them are scanned to their tokens. -/
theorem scan_spaced {pieces : List (TokenKind × List Char)}
    (spelled : ∀ piece ∈ pieces, Token.Spells piece.1 piece.2) (offset : Nat)
    (reversed : List Token) :
    Token.scan .between offset reversed (spaced (pieces.map Prod.snd)) =
      .ok (reversed.reverse ++ tokensAt offset pieces) := by
  induction pieces generalizing offset reversed with
  | nil => simp [spaced, tokensAt, Token.scan, Token.finish]
  | cons piece rest inductionHypothesis =>
    obtain ⟨spells, others⟩ := List.forall_mem_cons.mp spelled
    cases rest with
    | nil =>
      have scanned : Token.scan .between offset reversed (piece.2 ++ []) = _ :=
        Token.scan_spells spells Token.endsWord_nil
      rw [List.append_nil] at scanned
      simp [spaced, tokensAt, scanned, Token.scan, Token.finish]
    | cons next more =>
      -- The space ends a word, and is then read between two tokens like any blank.
      let stop := offset + Text.Utf8.widths piece.2
      have blank : Token.step .between stop ' ' = (.between, []) := rfl
      have space : Text.Utf8.width ' ' = 1 := rfl
      have behind := inductionHypothesis others (stop + 1) (⟨piece.1, offset⟩ :: reversed)
      rw [List.map_cons, List.map_cons, spaced,
        Token.scan_spells spells (Token.endsWord_cons rfl), Token.scan, blank]
      simpa [tokensAt, space] using behind

/-- Written tokens with a space between any two are tokenized as they were meant, each at the
offset where it starts. -/
theorem tokenize_spaced {pieces : List (TokenKind × List Char)}
    (spelled : ∀ piece ∈ pieces, Token.Spells piece.1 piece.2) :
    tokenize (String.ofList (spaced (pieces.map Prod.snd))) = .ok (tokensAt 0 pieces) := by
  simpa [tokenize] using scan_spaced spelled 0 []

/-- The tokens of some spellings have the kinds that are spelled. -/
theorem map_kind_tokensAt (offset : Nat) (pieces : List (TokenKind × List Char)) :
    (tokensAt offset pieces).map Token.kind = pieces.map Prod.fst := by
  induction pieces generalizing offset with
  | nil => rfl
  | cons piece rest inductionHypothesis => simp [tokensAt, inductionHypothesis]

/-- One way to write each kind of token. -/
def Token.spelling : TokenKind → List Char
  | .openParenthesis => ['(']
  | .closeParenthesis => [')']
  | .colon => [':']
  | .and => ['A', 'N', 'D']
  | .or => ['O', 'R']
  | .word text => escaped text.toList
  | .quoted text => '"' :: (escapedIn '"' text.toList ++ ['"'])

/-- The standard spelling of a kind spells it. -/
theorem Token.spells_spelling {kind : TokenKind}
    (isName : ∀ text, kind = .word text → IsName text) : Spells kind (spelling kind) := by
  cases kind with
  | openParenthesis => exact .openParenthesis
  | closeParenthesis => exact .closeParenthesis
  | colon => exact .colon
  | and => exact .and (by decide)
  | or => exact .or (by decide)
  | word text => exact .word (isName text rfl)
  | quoted text => exact .quoted rfl

/-- The text that writes some kinds of tokens, with spaces between them. -/
def writeKinds (kinds : List TokenKind) : String :=
  String.ofList (spaced (kinds.map Token.spelling))

/-- A written text has the kinds that it was written for. -/
theorem exists_tokenize_writeKinds {kinds : List TokenKind}
    (names : ∀ text, .word text ∈ kinds → IsName text) :
    ∃ tokens, tokenize (writeKinds kinds) = .ok tokens ∧ tokens.map Token.kind = kinds := by
  let pieces := kinds.map fun kind => (kind, Token.spelling kind)
  have spelled : ∀ piece ∈ pieces, Token.Spells piece.1 piece.2 := by
    intro piece isPiece
    obtain ⟨kind, isKind, rfl⟩ := List.mem_map.mp isPiece
    exact Token.spells_spelling fun text isWord => names text (isWord ▸ isKind)
  have tokenized := tokenize_spaced spelled
  refine ⟨tokensAt 0 pieces, ?_, ?_⟩
  · simpa [writeKinds, pieces, Function.comp_def] using tokenized
  · simp [map_kind_tokensAt, pieces, Function.comp_def]

namespace Token

/-- Every word among some tokens can name a field. -/
def Named (tokens : List Token) : Prop :=
  ∀ token ∈ tokens, ∀ text, token.kind = .word text → IsName text

/-- The characters of an unfinished word are not empty, unless a backslash promises one. -/
def Mode.Started : Mode → Prop
  | .word _ reversed escaped => escaped = true ∨ reversed ≠ []
  | .between | .quoted _ _ _ _ => True

theorem started_between : Mode.between.Started := trivial

theorem named_nil : Named [] := by simp [Named]

/-- Punctuation brings no word. -/
theorem named_punctuation {character : Char} {kind : TokenKind} {offset : Nat}
    (isKind : punctuation? character = some kind) : Named [⟨kind, offset⟩] := by
  intro token isToken text isWord
  cases List.mem_singleton.mp isToken
  unfold punctuation? at isKind
  split at isKind <;> cases isKind <;> cases isWord

/-- Between two tokens, no character leaves an empty word. -/
theorem started_begin (offset : Nat) (character : Char) :
    (begin offset character).1.Started ∧ Named (begin offset character).2 := by
  unfold begin
  split
  · exact ⟨trivial, named_nil⟩
  · split
    · rename_i kind isKind
      exact ⟨trivial, named_punctuation isKind⟩
    · split
      · exact ⟨trivial, named_nil⟩
      · split
        · exact ⟨.inl rfl, named_nil⟩
        · exact ⟨.inr (by simp), named_nil⟩

/-- One character only completes words that have characters. -/
theorem started_step {mode : Mode} (started : mode.Started) (offset : Nat) (character : Char) :
    (step mode offset character).1.Started ∧ Named (step mode offset character).2 := by
  cases mode with
  | between => exact started_begin offset character
  | word start reversed escaped =>
    cases escaped with
    | true => exact ⟨.inr (by simp), named_nil⟩
    | false =>
      have nonempty : reversed ≠ [] := by simpa [Mode.Started] using started
      unfold step
      dsimp only
      split
      · obtain ⟨nextStarted, named⟩ := started_begin offset character
        refine ⟨nextStarted, fun token isToken text isWord => ?_⟩
        rcases List.mem_append.mp isToken with isNext | isFinished
        · exact named token isNext text isWord
        · cases List.mem_singleton.mp isFinished
          exact isName_of_wordKind (by simpa using nonempty) isWord
      · split
        · exact ⟨.inl rfl, named_nil⟩
        · exact ⟨.inr (by simp), named_nil⟩
  | quoted quote start reversed escaped =>
    cases escaped with
    | true => exact ⟨trivial, named_nil⟩
    | false =>
      unfold step
      dsimp only
      split
      · exact ⟨trivial, named_nil⟩
      · split
        · exact ⟨trivial, by simp [Named]⟩
        · exact ⟨trivial, named_nil⟩

/-- Only the end of the text can complete a word without characters. -/
theorem named_of_scan {mode : Mode} {offset : Nat} {reversed tokens : List Token}
    {characters : List Char} (started : mode.Started) (named : Named reversed)
    (scanned : scan mode offset reversed characters = .ok tokens) : Named tokens.dropLast := by
  induction characters generalizing mode offset reversed with
  | nil =>
    -- The last token is the one that the end completes, and it may be an empty word: that of
    -- a backslash with nothing behind it.
    have only {last : List Token} (short : last.length ≤ 1)
        (isAll : tokens = (last ++ reversed).reverse) : Named tokens.dropLast := by
      intro token isToken
      refine named token ?_
      rw [isAll, List.reverse_append] at isToken
      match last, short with
      | [], _ => exact List.mem_reverse.mp (List.dropLast_subset _ (by simpa using isToken))
      | [_], _ => simpa using isToken
    cases mode with
    | between =>
      cases scanned
      exact only (by simp) rfl
    | word start characters escaped =>
      cases scanned
      exact only (by simp) rfl
    | quoted _ _ _ _ => cases scanned
  | cons character rest inductionHypothesis =>
    obtain ⟨nextStarted, stepNamed⟩ := started_step started offset character
    refine inductionHypothesis nextStarted (fun token isToken => ?_) scanned
    rcases List.mem_append.mp isToken with isNew | isOld
    · exact stepNamed token isNew
    · exact named token isOld

end Token

/-- A word before a colon can name a field. -/
theorem isName_of_tokenize {text name : String} {tokens : List Token}
    (tokenized : tokenize text = .ok tokens)
    (beforeColon : [.word name, .colon] <:+: tokens.map Token.kind) : IsName name := by
  have named : Token.Named tokens.dropLast :=
    Token.named_of_scan Token.started_between Token.named_nil tokenized
  obtain ⟨before, after, whole⟩ := beforeColon
  have isWord : .word name ∈ (tokens.map Token.kind).dropLast := by
    rw [← whole]
    simp
  rw [← List.map_dropLast] at isWord
  obtain ⟨token, isToken, isName⟩ := List.mem_map.mp isWord
  exact named token isToken name isName

end Dashboard.Query
