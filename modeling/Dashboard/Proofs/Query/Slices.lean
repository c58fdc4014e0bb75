import Dashboard.Proofs.Query.Scanning
import Mathlib.Data.List.Forall2

/-!
# Tokens and the text they stand for

The offsets of its tokens cut a text into slices: blanks before the first token, and one slice for
each token, which is that token when it is scanned alone. So the text around a token has no part in
it, and nothing but blanks is outside of all tokens. In the other direction, tokens that are written
with a space between any two stand where their pieces of text do.
-/

namespace Dashboard.Query

open Text.Utf8 (width widths)

/-- Some characters stand in a text from one byte offset to another. -/
def IsSlice (characters : List Char) (start stop : Nat) (piece : List Char) : Prop :=
  ∃ front back, characters = front ++ (piece ++ back) ∧ widths front = start ∧
    start + widths piece = stop

namespace Token

section Alone

variable {mode next : Mode} {offset : Nat} {reversed tokens : List Token} {token : Token}
  {characters piece blank : List Char} {character : Char}

/-- Tokens that are there already stand before those of the characters that follow. -/
theorem scan_eq_ok_iff :
    scan mode offset reversed characters = .ok tokens ↔
      ∃ later, scan mode offset [] characters = .ok later ∧ tokens = reversed.reverse ++ later := by
  have scanned := scans_through mode offset characters
  have whole := scanned reversed []
  have alone := scanned [] []
  rw [List.append_nil] at whole alone
  rw [whole, alone, scan, scan]
  cases finish (through mode offset characters).1 <;> simp [eq_comm]

/-- A scan succeeds when it succeeds behind its first step, whose tokens come first. -/
theorem scan_cons_eq_ok_iff :
    scan mode offset [] (character :: characters) = .ok tokens ↔
      ∃ later, scan (step mode offset character).1 (offset + width character) [] characters =
          .ok later ∧
        tokens = (step mode offset character).2.reverse ++ later := by
  simp only [scan, List.append_nil]
  exact scan_eq_ok_iff

/-- A character that completes nothing, before the rest of a piece. -/
theorem scan_cons_of_within (stepped : step mode offset character = (next, []))
    (scanned : scan next (offset + width character) [] piece = .ok tokens) :
    scan mode offset [] (character :: piece) = .ok tokens := by
  rw [scan, stepped]
  exact scanned

/-- The last character of a token, before blanks. -/
theorem scan_cons_of_closes (stepped : step mode offset character = (.between, [token]))
    (blanks : ∀ character ∈ blank, Text.isBlank character = true) :
    scan mode offset [] (character :: blank) = .ok [token] := by
  rw [scan, stepped]
  exact scan_blanks blanks _ _

/-- Blanks end a word, and so does the end of the text. -/
theorem endsWord_of_blanks (blanks : ∀ character ∈ blank, Text.isBlank character = true) :
    EndsWord blank := by
  intro character isFirst
  simp [blanks character (List.mem_of_mem_head? isFirst)]

/-- A piece of text that is scanned between two tokens has the same tokens on its own. -/
theorem exists_tokenize_of_scan (scanned : scan .between offset [] piece = .ok tokens) :
    ∃ own, tokenize (String.ofList piece) = .ok own ∧ tokens = own.map (moved offset) := by
  have further := scans_through .between offset piece [] []
  have moves := through_moved .between offset 0 piece
  rw [Nat.zero_add, Mode.moved] at moves
  rw [List.append_nil, moves, scanned, scan] at further
  rw [tokenize_eq, String.toList_ofList]
  generalize (through .between 0 piece).1 = mode at further ⊢
  cases mode with
  | between | word start characters escaped =>
    cases further
    refine ⟨_, rfl, ?_⟩
    simp [moved]
  | quoted quote start characters escaped => cases further

/-- A piece that is scanned to one token at some offset is that token when it stands alone. -/
theorem tokenize_of_scan (alone : scan .between token.offset [] piece = .ok [token]) :
    tokenize (String.ofList piece) = .ok [⟨token.kind, 0⟩] := by
  obtain ⟨own, tokenized, moves⟩ := exists_tokenize_of_scan alone
  obtain ⟨⟨kind, place⟩, rfl, isToken⟩ := List.map_eq_singleton_iff.mp moves.symm
  have sameKind : kind = token.kind := congrArg Token.kind isToken
  have atStart : place + token.offset = token.offset := congrArg Token.offset isToken
  rw [tokenized, sameKind, Nat.add_eq_right.mp atStart]

end Alone

/-- Where the token that a mode is in starts. -/
def Mode.start? : Mode → Option Nat
  | .between => none
  | .word start _ _ | .quoted _ start _ _ => some start

/-- What one character between two tokens can do. -/
inductive BeginStep (offset : Nat) (character : Char) : Mode × List Token → Prop where
  | blank (isBlank : Text.isBlank character = true) : BeginStep offset character (.between, [])
  | punctuation {kind} : BeginStep offset character (.between, [⟨kind, offset⟩])
  | starts {mode} (isStart : mode.start? = some offset) : BeginStep offset character (mode, [])

/-- What one character inside a token can do: the token goes on, or the character closes it, or it
ends the token and is read between two tokens. -/
inductive TokenStep (start offset : Nat) (character : Char) (mode : Mode) :
    Mode × List Token → Prop where
  | within {next} (isStart : next.start? = some start) :
      TokenStep start offset character mode (next, [])
  | closes {kind} : TokenStep start offset character mode (.between, [⟨kind, start⟩])
  | ends {word} (isWord : mode = .word start word false)
      (isEnd : (Text.isBlank character || (punctuation? character).isSome) = true) :
      TokenStep start offset character mode ((begin offset character).1,
        (begin offset character).2 ++ [⟨wordKind word.reverse, start⟩])

section Steps

variable {mode : Mode} {offset start : Nat} {character : Char}

/-- Between two tokens, every character does one of the things listed. -/
theorem beginStep (offset : Nat) (character : Char) :
    BeginStep offset character (begin offset character) := by
  unfold begin
  split
  · rename_i isBlank
    exact .blank isBlank
  · split
    · exact .punctuation
    · split
      · exact .starts rfl
      · split <;> exact .starts rfl

/-- Inside a token, every character does one of the things listed. -/
theorem tokenStep (isStart : mode.start? = some start) (offset : Nat) (character : Char) :
    TokenStep start offset character mode (step mode offset character) := by
  cases mode with
  | between => cases isStart
  | word wordStart word escaped =>
    cases isStart
    cases escaped with
    | true => exact .within rfl
    | false =>
      unfold step
      dsimp only
      split
      · rename_i isEnd
        exact .ends rfl isEnd
      · split <;> exact .within rfl
  | quoted quote quoteStart text escaped =>
    cases isStart
    cases escaped with
    | true => exact .within rfl
    | false =>
      unfold step
      dsimp only
      split
      · exact .within rfl
      · split
        · exact .closes
        · exact .within rfl

end Steps

/-- From a byte offset on, some characters are cut into pieces, each of which is scanned to one
token that starts with it. -/
inductive Cut : Nat → List Char → List Token → Prop where
  | nil {offset} : Cut offset [] []
  | cons {offset kind piece rest tokens}
      (alone : scan .between offset [] piece = .ok [⟨kind, offset⟩])
      (further : Cut (offset + widths piece) rest tokens) :
      Cut offset (piece ++ rest) (⟨kind, offset⟩ :: tokens)

/-- Some characters are cut behind the blanks that they begin with. -/
inductive CutBehindBlanks (offset : Nat) : List Char → List Token → Prop where
  | intro {blank rest tokens} (blanks : ∀ character ∈ blank, Text.isBlank character = true)
      (cut : Cut (offset + widths blank) rest tokens) :
      CutBehindBlanks offset (blank ++ rest) tokens

/-- Some characters complete the token that a mode is in, and are cut behind it. -/
inductive CutBehindToken (mode : Mode) (start offset : Nat) : List Char → List Token → Prop where
  | intro {piece rest kind tokens} (completes : scan mode offset [] piece = .ok [⟨kind, start⟩])
      (cut : Cut (offset + widths piece) rest tokens) :
      CutBehindToken mode start offset (piece ++ rest) (⟨kind, start⟩ :: tokens)

/-- Some characters behind a mode are cut: behind blanks, or behind the rest of its token. -/
def CutBehind (mode : Mode) (offset : Nat) (characters : List Char) (tokens : List Token) : Prop :=
  match mode.start? with
  | none => CutBehindBlanks offset characters tokens
  | some start => CutBehindToken mode start offset characters tokens

section Cutting

variable {mode : Mode} {offset start : Nat} {tokens : List Token}
  {characters piece : List Char} {character : Char}

/-- Inside a token, what follows completes it and is cut behind it. -/
theorem cutBehind_of_start (isStart : mode.start? = some start) :
    CutBehind mode offset characters tokens ↔
      CutBehindToken mode start offset characters tokens := by
  rw [CutBehind, isStart]

/-- The offset behind a piece of text, from its first character on. -/
theorem Cut.behind_cons (cut : Cut (offset + width character + widths piece) characters tokens) :
    Cut (offset + widths (character :: piece)) characters tokens := by
  rwa [widths_cons, ← Nat.add_assoc]

/-- What is cut begins with no blanks at the least. -/
theorem Cut.behindBlanks (cut : Cut offset characters tokens) :
    CutBehindBlanks offset characters tokens := by
  have noBlanks : ∀ character ∈ ([] : List Char), Text.isBlank character = true := nofun
  exact .intro noBlanks cut

/-- Between two tokens, one character more is cut as it begins. -/
theorem cutBehindBlanks_cons
    (further : ∀ mode offset tokens, scan mode offset [] characters = .ok tokens →
      CutBehind mode offset characters tokens)
    (scanned : scan .between offset [] (character :: characters) = .ok tokens) :
    CutBehindBlanks offset (character :: characters) tokens := by
  obtain ⟨later, behind, rfl⟩ := scan_cons_eq_ok_iff.mp scanned
  have cut := further _ _ _ behind
  generalize stepped : step .between offset character = result at cut ⊢
  have can : BeginStep offset character result := stepped ▸ beginStep offset character
  cases can with
  | blank isBlank =>
    cases cut with
    | intro blanks others =>
      exact .intro (List.forall_mem_cons.mpr ⟨isBlank, blanks⟩) others.behind_cons
  | punctuation =>
    cases cut with
    | intro blanks others =>
      have alone := scan_cons_of_closes stepped blanks
      exact Cut.behindBlanks (.cons alone others.behind_cons)
  | starts isStart =>
    cases (cutBehind_of_start isStart).mp cut with
    | intro completes others =>
      have alone := scan_cons_of_within stepped completes
      exact Cut.behindBlanks (.cons alone others.behind_cons)

/-- Inside a token, one character more goes on with it, or leaves blanks to its piece. -/
theorem cutBehindToken_cons (isStart : mode.start? = some start)
    (further : ∀ mode offset tokens, scan mode offset [] characters = .ok tokens →
      CutBehind mode offset characters tokens)
    (scanned : scan mode offset [] (character :: characters) = .ok tokens) :
    CutBehindToken mode start offset (character :: characters) tokens := by
  obtain ⟨later, behind, rfl⟩ := scan_cons_eq_ok_iff.mp scanned
  have cut := further _ _ _ behind
  generalize stepped : step mode offset character = result at behind cut ⊢
  have can : TokenStep start offset character mode result :=
    stepped ▸ tokenStep isStart offset character
  cases can with
  | within isNext =>
    cases (cutBehind_of_start isNext).mp cut with
    | intro completes others =>
      exact .intro (scan_cons_of_within stepped completes) others.behind_cons
  | closes =>
    cases cut with
    | intro blanks others => exact .intro (scan_cons_of_closes stepped blanks) others.behind_cons
  | ends isWord isEnd =>
    -- What ends the word is cut as if the scanner had stood between two tokens before it.
    have again : scan .between offset [] (character :: characters) =
        .ok ((begin offset character).2.reverse ++ later) :=
      scan_cons_eq_ok_iff.mpr ⟨later, behind, rfl⟩
    have cutAgain := cutBehindBlanks_cons further again
    rw [List.reverse_append, List.reverse_singleton, List.append_assoc, List.singleton_append]
    generalize character :: characters = whole at cutAgain ⊢
    generalize (begin offset character).2.reverse ++ later = others at cutAgain ⊢
    cases cutAgain with
    | intro blanks others =>
      subst isWord
      exact .intro ((scan_word_ended (endsWord_of_blanks blanks)).trans (scan_blanks blanks _ _))
        others

/-- Whatever the scanner stands in, the characters that it reads to the end are cut. -/
theorem cutBehind_of_scan (scanned : scan mode offset [] characters = .ok tokens) :
    CutBehind mode offset characters tokens := by
  -- Behind one character the scanner may be inside a token, so the modes are generalized.
  induction characters generalizing mode offset tokens with
  | nil =>
    cases mode with
    | between =>
      cases scanned
      exact Cut.behindBlanks .nil
    | word start word escaped =>
      cases scanned
      have completes : scan (.word start word escaped) offset [] [] =
          .ok [⟨wordKind word.reverse, start⟩] := rfl
      exact .intro completes .nil
    | quoted _ _ _ _ => cases scanned
  | cons character rest inductionHypothesis =>
    have further : ∀ mode offset tokens, scan mode offset [] rest = .ok tokens →
        CutBehind mode offset rest tokens := fun _ _ _ => inductionHypothesis
    cases mode with
    | between => exact cutBehindBlanks_cons further scanned
    | word _ _ _ | quoted _ _ _ _ => exact cutBehindToken_cons rfl further scanned

end Cutting

end Token

/-- The byte offset where the token of an index starts; behind the last token, where the text
stops. -/
def edge (stop : Nat) (tokens : List Token) (index : Nat) : Nat :=
  (tokens[index]?).elim stop Token.offset

/-- Some tokens cut a text into slices. -/
structure CutsUp (characters : List Char) (tokens : List Token) : Prop where
  /-- Each token starts before the next one does, and the last before the end of the text. -/
  increasing : ∀ index < tokens.length,
    edge (widths characters) tokens index < edge (widths characters) tokens (index + 1)
  /-- In front of the first token there are blanks only. -/
  blanks : ∃ piece, IsSlice characters 0 (edge (widths characters) tokens 0) piece ∧
    ∀ character ∈ piece, Text.isBlank character = true
  /-- From each token to the next there is a slice that is the one token when it stands alone. -/
  alone : ∀ index token, tokens[index]? = some token → ∃ piece,
    IsSlice characters token.offset (edge (widths characters) tokens (index + 1)) piece ∧
      tokenize (String.ofList piece) = .ok [⟨token.kind, 0⟩]
  /-- Each character but a blank is in the slice of exactly one token. -/
  covered : ∀ front character back, characters = front ++ character :: back →
    Text.isBlank character = false → ∃! index, index < tokens.length ∧
      edge (widths characters) tokens index ≤ widths front ∧
      widths front < edge (widths characters) tokens (index + 1)

section Slices

open Token (Cut)

variable {offset index place count : Nat} {tokens : List Token} {token : Token}
  {characters piece front back blank rest : List Char} {character : Char} {text : String}

/-- Characters have at least one octet, unless there are none. -/
theorem widths_pos (notEmpty : piece ≠ []) : 0 < widths piece := by
  cases piece with
  | nil => exact absurd rfl notEmpty
  | cons character rest =>
    rw [Token.widths_cons]
    exact Nat.add_pos_left (Token.width_pos character) _

/-- What is scanned to a token is not empty. -/
theorem widths_pos_of_scan (alone : Token.scan .between offset [] piece = .ok [token]) :
    0 < widths piece := by
  apply widths_pos
  rintro rfl
  cases alone

/-- The first edge is where the cut begins. -/
theorem Token.Cut.edge_zero (cut : Cut offset characters tokens) :
    edge (offset + widths characters) tokens 0 = offset := by
  cases cut with
  | nil => rfl
  | cons _ _ => rfl

/-- The piece of a token stands between its edges. -/
theorem Token.Cut.exists_piece (cut : Cut offset characters tokens)
    (isToken : tokens[index]? = some token) :
    ∃ front piece back, characters = front ++ (piece ++ back) ∧
      token.offset = offset + widths front ∧
      edge (offset + widths characters) tokens (index + 1) = token.offset + widths piece ∧
      scan .between token.offset [] piece = .ok [token] := by
  induction cut generalizing index with
  | nil => cases isToken
  | @cons offset kind piece rest tokens alone further inductionHypothesis =>
    rw [widths_append, ← Nat.add_assoc]
    cases index with
    | zero =>
      cases isToken
      exact ⟨[], piece, rest, rfl, rfl, further.edge_zero, alone⟩
    | succ index =>
      obtain ⟨front, own, back, rfl, starts, stops, ownAlone⟩ := inductionHypothesis isToken
      refine ⟨piece ++ front, own, back, by rw [List.append_assoc], ?_, stops, ownAlone⟩
      rw [starts, widths_append, Nat.add_assoc]

/-- Edges that increase one after the other increase over any distance. -/
theorem edge_le_of_increasing {edge : Nat → Nat} {first last : Nat}
    (increasing : ∀ index < count, edge index < edge (index + 1)) (before : first ≤ last)
    (inside : last ≤ count) : edge first ≤ edge last := by
  induction before with
  | refl => exact Nat.le_refl _
  | step before inductionHypothesis =>
    exact Nat.le_trans (inductionHypothesis (Nat.le_of_succ_le inside))
      (Nat.le_of_lt (increasing _ inside))

/-- A place before the last edge lies between two neighbouring edges. -/
theorem exists_between {edge : Nat → Nat} (low : edge 0 ≤ place) (high : place < edge count) :
    ∃ index < count, edge index ≤ place ∧ place < edge (index + 1) := by
  induction count with
  | zero => omega
  | succ count inductionHypothesis =>
    by_cases isBefore : place < edge count
    · obtain ⟨index, inside, between⟩ := inductionHypothesis isBefore
      exact ⟨index, Nat.lt_succ_of_lt inside, between⟩
    · exact ⟨count, Nat.lt_succ_self _, Nat.le_of_not_lt isBefore, high⟩

/-- Between the first and the last of increasing edges, a place is between exactly two that are
next to each other. -/
theorem existsUnique_between {edge : Nat → Nat}
    (increasing : ∀ index < count, edge index < edge (index + 1)) (low : edge 0 ≤ place)
    (high : place < edge count) :
    ∃! index, index < count ∧ edge index ≤ place ∧ place < edge (index + 1) := by
  obtain ⟨index, inside, starts, stops⟩ := exists_between low high
  refine ⟨index, ⟨inside, starts, stops⟩, ?_⟩
  rintro other ⟨otherInside, otherStarts, otherStops⟩
  rcases Nat.lt_trichotomy other index with isBefore | same | isBehind
  · have atMost : edge (other + 1) ≤ edge index :=
      edge_le_of_increasing increasing isBefore (Nat.le_of_lt inside)
    omega
  · exact same
  · have atMost : edge (index + 1) ≤ edge other :=
      edge_le_of_increasing increasing isBehind (Nat.le_of_lt otherInside)
    omega

/-- A character that is no blank stands behind the blanks that a text begins with. -/
theorem widths_le_of_not_blank (blanks : ∀ character ∈ blank, Text.isBlank character = true)
    (whole : blank ++ rest = front ++ character :: back)
    (notBlank : Text.isBlank character = false) : widths blank ≤ widths front := by
  rcases List.append_eq_append_iff.mp whole with ⟨between, rfl, -⟩ | ⟨between, rfl, others⟩
  · rw [Token.widths_append]
    exact Nat.le_add_right _ _
  · cases between with
    | nil => exact Nat.le_of_eq (congrArg widths (List.append_nil front))
    | cons first more =>
      cases others
      have isBlank := blanks character (by simp)
      rw [notBlank] at isBlank
      cases isBlank

/-- A token starts before the next one does, and before the characters stop. -/
theorem Token.Cut.edge_lt (cut : Cut offset characters tokens) (inside : index < tokens.length) :
    edge (offset + widths characters) tokens index <
      edge (offset + widths characters) tokens (index + 1) := by
  have isToken := List.getElem?_eq_getElem inside
  obtain ⟨front, piece, back, -, -, stops, alone⟩ := cut.exists_piece isToken
  have starts : edge (offset + widths characters) tokens index = tokens[index].offset := by
    rw [edge, isToken]
    rfl
  have notEmpty := widths_pos_of_scan alone
  omega

/-- What is cut behind blanks is cut into slices, the blanks apart. -/
theorem cutsUp_of_cut (blanks : ∀ character ∈ blank, Text.isBlank character = true)
    (cut : Cut (0 + widths blank) rest tokens) : CutsUp (blank ++ rest) tokens := by
  have stop : 0 + widths blank + widths rest = widths (blank ++ rest) := by
    rw [Nat.zero_add, Token.widths_append]
  have first := cut.edge_zero
  have increasing (index : Nat) (inside : index < tokens.length) := cut.edge_lt inside
  have pieces {index : Nat} {token : Token} (isToken : tokens[index]? = some token) :=
    cut.exists_piece isToken
  rw [stop] at first increasing pieces
  refine ⟨increasing, ⟨blank, ⟨[], rest, rfl, rfl, first.symm⟩, blanks⟩, ?_, ?_⟩
  · intro index token isToken
    obtain ⟨front, piece, back, rfl, starts, stops, alone⟩ := pieces isToken
    refine ⟨piece, ⟨blank ++ front, back, by rw [List.append_assoc], ?_, stops.symm⟩,
      Token.tokenize_of_scan alone⟩
    rw [starts, Token.widths_append, Nat.zero_add]
  · intro front character back whole notBlank
    refine existsUnique_between increasing ?_ ?_
    · rw [first, Nat.zero_add]
      exact widths_le_of_not_blank blanks whole notBlank
    · have isEnd : edge (widths (blank ++ rest)) tokens tokens.length = widths (blank ++ rest) := by
        simp [edge]
      rw [isEnd, whole, Token.widths_append, Token.widths_cons]
      have notEmpty := Token.width_pos character
      omega

/-- The tokens of a text cut it into slices. -/
theorem cutsUp_of_tokenize (tokenized : tokenize text = .ok tokens) :
    CutsUp text.toList tokens := by
  have cutBehind : Token.CutBehindBlanks 0 text.toList tokens := Token.cutBehind_of_scan tokenized
  generalize text.toList = characters at cutBehind ⊢
  cases cutBehind with
  | intro blanks cut => exact cutsUp_of_cut blanks cut

end Slices

/-- The tokens of a text cut it into slices: their offsets stand between characters, one behind the
other and before the end of the text, in front of the first there are blanks only, and from each to
the next, or to the end, stands a slice that is this token alone when it is scanned on its own. A
text has no tokens exactly when the scanner reaches, between two tokens, a quote that is not closed
behind, and the error tells where this quote stands. -/
theorem tokens_cut_text_into_slices (text : String) :
    (∀ tokens, tokenize text = .ok tokens → CutsUp text.toList tokens) ∧
    ∀ error, tokenize text = .error error ↔
      ∃ position, error = ⟨.unterminatedQuote, position⟩ ∧
        Token.LeavesOpen .between 0 text.toList position :=
  ⟨fun _ => cutsUp_of_tokenize, fun _ => Token.tokenize_eq_error_iff⟩

/-- A blank that a backslash keeps is part of its word, and the tokens around it do not matter to
the one in the middle; a quote behind a blank that nothing closes is told by its offset. -/
theorem tokens_cut_text_with_kept_blank :
    let text := "  a\\ b:'x'"
    let tokens : List Token := [⟨.word "a b", 2⟩, ⟨.colon, 6⟩, ⟨.quoted "x", 7⟩]
    tokenize text = .ok tokens ∧ CutsUp text.toList tokens ∧
    IsSlice text.toList 2 6 "a\\ b".toList ∧ tokenize "a\\ b" = .ok [⟨.word "a b", 0⟩] ∧
    tokenize "a \"b'" = .error ⟨.unterminatedQuote, 2⟩ ∧
    Token.LeavesOpen .between 0 "a \"b'".toList 2 := by
  intro text tokens
  obtain ⟨position, isError, leaves⟩ :=
    ((tokens_cut_text_into_slices "a \"b'").2 ⟨.unterminatedQuote, 2⟩).mp rfl
  cases isError
  have tokenized : tokenize "  a\\ b:'x'" = .ok tokens := rfl
  exact ⟨tokenized, (tokens_cut_text_into_slices text).1 tokens tokenized,
    ⟨"  ".toList, ":'x'".toList, by decide, rfl, rfl⟩, rfl, rfl, leaves⟩

/-- Pieces of text, each with a space behind it. -/
def leading (pieces : List (List Char)) : List Char := pieces.flatMap (· ++ [' '])

section Written

variable {kinds : List TokenKind} {written : List (List Char)}

/-- Where a piece stands among pieces with a space between any two. -/
theorem exists_spaced_eq (front : List (List Char)) (piece : List Char)
    (back : List (List Char)) :
    ∃ tail, spaced (front ++ piece :: back) = leading front ++ (piece ++ tail) := by
  induction front with
  | nil =>
    cases back with
    | nil => exact ⟨[], (List.append_nil piece).symm⟩
    | cons next more => exact ⟨' ' :: spaced (next :: more), rfl⟩
  | cons first rest inductionHypothesis =>
    obtain ⟨tail, behind⟩ := inductionHypothesis
    obtain ⟨next, more, isCons⟩ := List.exists_cons_of_ne_nil (l := rest ++ piece :: back) (by simp)
    refine ⟨tail, ?_⟩
    rw [List.cons_append, isCons, spaced, ← isCons, behind]
    simp [leading]

/-- The place of a token is told by the widths of what is written before it. -/
theorem getElem?_tokensAt (front : List (TokenKind × List Char)) (kind : TokenKind)
    (piece : List Char) (back : List (TokenKind × List Char)) (offset : Nat) :
    (tokensAt offset (front ++ (kind, piece) :: back))[front.length]? =
      some ⟨kind, offset + widths (leading (front.map Prod.snd))⟩ := by
  induction front generalizing offset with
  | nil => rfl
  | cons first rest inductionHypothesis =>
    have space : widths [' '] = 1 := rfl
    rw [List.cons_append, tokensAt, List.length_cons, List.getElem?_cons_succ, inductionHypothesis,
      List.map_cons, leading, leading, List.flatMap_cons, Token.widths_append, Token.widths_append,
      space]
    simp only [Nat.add_assoc]

/-- Every list of kinds whose words are names can be written. -/
theorem exists_spells (names : ∀ text, .word text ∈ kinds → IsName text) :
    ∃ written, List.Forall₂ Token.Spells kinds written := by
  refine ⟨kinds.map Token.spelling, ?_⟩
  rw [List.forall₂_map_right_iff, List.forall₂_same]
  exact fun kind isKind => Token.spells_spelling fun text isWord => names text (isWord ▸ isKind)

/-- Kinds of tokens, each with the piece of text that it is written as, are read back from the
pieces with a space between any two. -/
theorem exists_tokenize_spaced (spells : List.Forall₂ Token.Spells kinds written) :
    ∃ tokens, tokenize (String.ofList (spaced written)) = .ok tokens ∧
      tokens.map Token.kind = kinds ∧
      ∀ front piece back, written = front ++ piece :: back → ∃ token,
        tokens[front.length]? = some token ∧ token.offset = widths (leading front) ∧
        IsSlice (spaced written) token.offset (token.offset + widths piece) piece := by
  let pieces := kinds.zip written
  have sameLength := spells.length_eq
  have areKinds : pieces.map Prod.fst = kinds := List.map_fst_zip (Nat.le_of_eq sameLength)
  have areWritten : pieces.map Prod.snd = written :=
    List.map_snd_zip (Nat.le_of_eq sameLength.symm)
  have spelled : ∀ piece ∈ pieces, Token.Spells piece.1 piece.2 := fun _ isPiece =>
    (List.forall₂_iff_zip.mp spells).2 isPiece
  have tokenized := tokenize_spaced spelled
  rw [areWritten] at tokenized
  refine ⟨tokensAt 0 pieces, tokenized, (map_kind_tokensAt 0 pieces).trans areKinds, ?_⟩
  rintro front piece back isWritten
  obtain ⟨before, behind, isSplit, areFront, areRest⟩ :=
    List.map_eq_append_iff.mp (areWritten.trans isWritten)
  obtain ⟨⟨kind, own⟩, after, rfl, isOwn, rfl⟩ := List.map_eq_cons_iff.mp areRest
  subst isOwn
  obtain ⟨tail, isSpaced⟩ := exists_spaced_eq front own (after.map Prod.snd)
  have sameCount : before.length = front.length := by rw [← areFront, List.length_map]
  refine ⟨⟨kind, widths (leading front)⟩, ?_, rfl, ?_⟩
  · rw [isSplit, ← sameCount, getElem?_tokensAt, areFront, Nat.zero_add]
  · exact ⟨leading front, tail, isWritten ▸ isSpaced, rfl, rfl⟩

end Written

/-- Kinds of tokens whose words are names can be written, and however they are - words with a
backslash before each character, quoted texts between either quote with one before it and before
every backslash, keywords in any case, a space between any two - they are read back, each at the
offset where its piece of the text starts. -/
theorem written_kinds_are_read_back {kinds : List TokenKind}
    (names : ∀ text, .word text ∈ kinds → IsName text) :
    (∃ written, List.Forall₂ Token.Spells kinds written) ∧
    ∀ written, List.Forall₂ Token.Spells kinds written →
      ∃ tokens, tokenize (String.ofList (spaced written)) = .ok tokens ∧
        tokens.map Token.kind = kinds ∧
        ∀ front piece back, written = front ++ piece :: back → ∃ token,
          tokens[front.length]? = some token ∧ token.offset = widths (leading front) ∧
          IsSlice (spaced written) token.offset (token.offset + widths piece) piece :=
  ⟨exists_spells names, fun _ => exists_tokenize_spaced⟩

/-- A word with a character of two bytes and a blank, and a text in single quotes that holds such a
quote and a backslash. -/
theorem written_kinds_are_read_back_in_single_quotes :
    let kinds : List TokenKind := [.word "é b", .colon, .quoted "it's\\", .or, .quoted ""]
    let written : List (List Char) :=
      ["\\é\\ \\b".toList, [':'], "'it\\'s\\\\'".toList, "oR".toList, "\"\"".toList]
    (∀ text, .word text ∈ kinds → IsName text) ∧ List.Forall₂ Token.Spells kinds written ∧
    ∃ tokens, tokenize (String.ofList (spaced written)) = .ok tokens ∧
      tokens.map Token.kind = kinds ∧ ∃ token, tokens[2]? = some token ∧ token.offset = 10 := by
  intro kinds written
  have names : ∀ text, .word text ∈ kinds → IsName text := by
    intro text isWord
    obtain rfl : text = "é b" := by simpa [kinds] using isWord
    exact ⟨by decide, by decide, by decide⟩
  have spells : List.Forall₂ Token.Spells kinds written :=
    .cons (.word (names _ (by simp [kinds]))) (.cons .colon (.cons (.quoted rfl)
      (.cons (.or (by decide)) (.cons (.quoted rfl) .nil))))
  obtain ⟨tokens, tokenized, areKinds, places⟩ :=
    (written_kinds_are_read_back names).2 written spells
  obtain ⟨token, isToken, isPlace, -⟩ := places (written.take 2) _ _ rfl
  exact ⟨names, spells, tokens, tokenized, areKinds, token, isToken, isPlace⟩

end Dashboard.Query
