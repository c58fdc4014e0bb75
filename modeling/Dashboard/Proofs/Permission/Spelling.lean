import Dashboard.Proofs.Permission.Denial

/-!
# How paths are written

Reading and writing paths are inverse to each other, between the texts that are read and the
segments that are well formed: a text is read as the segments that it is written with, and
segments without dots in their names are the ones that their text is read as.
-/

namespace Dashboard.Text

variable {separator : Char} {current characters piece : List Char}

/-- The pieces of a text are those that it is split into at the separator. -/
theorem pieces_eq_splitOn (separator : Char) (characters : List Char) :
    pieces separator characters = characters.splitOn separator := by
  have onto (current : List Char) : piecesFrom separator current characters =
      List.splitOnPPrepend (· == separator) characters current := by
    induction characters generalizing current with
    | nil => rfl
    | cons character rest inductionHypothesis =>
      rw [piecesFrom, List.splitOnPPrepend]
      simp only [beq_iff_eq, inductionHypothesis]
  exact onto []

/-- No piece has the separator in it. -/
theorem separator_notMem_of_mem_piecesFrom (noSeparator : separator ∉ current)
    (isPiece : piece ∈ piecesFrom separator current characters) : separator ∉ piece := by
  induction characters generalizing current with
  | nil =>
    cases List.mem_singleton.mp isPiece
    rwa [List.mem_reverse]
  | cons character rest inductionHypothesis =>
    unfold piecesFrom at isPiece
    split at isPiece
    · rcases List.mem_cons.mp isPiece with rfl | isLater
      · rwa [List.mem_reverse]
      · exact inductionHypothesis List.not_mem_nil isLater
    · rename_i differ
      exact inductionHypothesis (List.not_mem_cons_of_ne_of_not_mem (Ne.symm differ) noSeparator)
        isPiece

/-- The pieces between separators are the one way to cut a text into pieces without any. -/
theorem pieces_eq_iff {separator : Char} {characters : List Char} {parts : List (List Char)}
    (notEmpty : parts ≠ []) :
    pieces separator characters = parts ↔
      characters = [separator].intercalate parts ∧ ∀ part ∈ parts, separator ∉ part := by
  constructor
  · rintro rfl
    refine ⟨?_, fun part isPart => separator_notMem_of_mem_piecesFrom List.not_mem_nil isPart⟩
    rw [pieces_eq_splitOn, List.intercalate_splitOn]
  · rintro ⟨rfl, noSeparator⟩
    rw [pieces_eq_splitOn, List.splitOn_intercalate _ noSeparator notEmpty]

end Dashboard.Text

namespace Dashboard.Permission

namespace Segment

variable {segment : Segment} {part : List Char} {parts : List (List Char)}
  {segments : List Segment}

/-- The name of a segment, without the sign of a placeholder. -/
def name : Segment → String
  | literal key => key
  | placeholder name => name

/-- A segment has a name, and a literal does not look like a placeholder. -/
structure IsNamed (segment : Segment) : Prop where
  notEmpty : segment.name ≠ ""
  noSign : ∀ key, segment = .literal key → key.toList.head? ≠ some '$'

/-- The characters of a segment as it is written. -/
def characters (segment : Segment) : List Char := segment.text.toList

/-- A placeholder is written with a dollar sign in front of its name. -/
theorem characters_placeholder (name : String) :
    (placeholder name).characters = '$' :: name.toList := by
  rw [characters, text, String.toList_append]
  rfl

/-- The part that is read as a segment is the one that it is written as. -/
theorem ofPart_eq_ok_iff :
    ofPart part = .ok segment ↔ part = segment.characters ∧ segment.IsNamed := by
  constructor
  · intro read
    unfold ofPart at read
    split at read
    · cases read
    · cases read
    · rename_i name named
      cases read
      rw [characters_placeholder, String.toList_ofList]
      refine ⟨rfl, ⟨fun empty => ?_, nofun⟩⟩
      exact named (String.ofList_eq_empty_iff.mp empty)
    · rename_i notEmpty _ noSign
      cases read
      refine ⟨String.toList_ofList.symm, ⟨fun empty => ?_, ?_⟩⟩
      · exact notEmpty (String.ofList_eq_empty_iff.mp empty)
      · rintro _ ⟨⟩ sign
        rw [String.toList_ofList] at sign
        obtain ⟨rest, rfl⟩ := List.head?_eq_some_iff.mp sign
        exact noSign rest rfl
  · rintro ⟨rfl, named⟩
    cases segment with
    | placeholder name =>
      have notEmpty : name.toList ≠ [] := fun empty =>
        named.notEmpty (String.toList_eq_nil_iff.mp empty)
      rw [characters_placeholder, ofPart]
      · rw [String.ofList_toList]
      · exact notEmpty
    | literal key =>
      have notEmpty : key.toList ≠ [] := fun empty =>
        named.notEmpty (String.toList_eq_nil_iff.mp empty)
      have noSign : ∀ rest, key.toList ≠ '$' :: rest := fun rest begins =>
        named.noSign key rfl (List.head?_eq_some_iff.mpr ⟨rest, begins⟩)
      rw [characters, text, ofPart]
      · rw [String.ofList_toList]
      · exact notEmpty
      · exact noSign []
      · exact noSign

/-- A part is read unless it is empty or the sign alone. -/
theorem exists_ofPart_iff : (∃ segment, ofPart part = .ok segment) ↔ part ≠ [] ∧ part ≠ ['$'] := by
  unfold ofPart
  split <;> simp_all

/-- Parts are read as segments exactly when they spell segments with names. -/
theorem ofParts_eq_ok_iff :
    ofParts parts = .ok segments ↔
      parts = segments.map characters ∧ ∀ segment ∈ segments, segment.IsNamed := by
  induction parts generalizing segments with
  | nil =>
    cases segments with
    | nil => simp [ofParts]
    | cons segment segments => simp [ofParts]
  | cons part rest inductionHypothesis =>
    constructor
    · intro read
      unfold ofParts at read
      split at read
      · cases read
      rename_i segment isSegment
      split at read
      · cases read
      rename_i others areOthers
      cases read
      obtain ⟨rfl, named⟩ := ofPart_eq_ok_iff.mp isSegment
      obtain ⟨rfl, othersNamed⟩ := inductionHypothesis.mp areOthers
      exact ⟨rfl, List.forall_mem_cons.mpr ⟨named, othersNamed⟩⟩
    · rintro ⟨written, named⟩
      cases segments with
      | nil => cases written
      | cons segment others =>
        obtain ⟨isPart, areParts⟩ := List.cons.inj written
        obtain ⟨firstNamed, othersNamed⟩ := List.forall_mem_cons.mp named
        rw [ofParts, ofPart_eq_ok_iff.mpr ⟨isPart, firstNamed⟩]
        dsimp only
        rw [inductionHypothesis.mpr ⟨areParts, othersNamed⟩]

/-- Parts are read when each of them is. -/
theorem exists_ofParts_iff :
    (∃ segments, ofParts parts = .ok segments) ↔ ∀ part ∈ parts, part ≠ [] ∧ part ≠ ['$'] := by
  induction parts with
  | nil => simp [ofParts]
  | cons part rest inductionHypothesis =>
    rw [List.forall_mem_cons, ← exists_ofPart_iff, ← inductionHypothesis, ofParts]
    cases ofPart part with
    | error fault => simp
    | ok segment => cases ofParts rest <;> simp

end Segment

section Paths

variable {text : String} {path : Path} {segments : List Segment}

/-- Segments as they are written, with dots between them. -/
def written (segments : List Segment) : String :=
  String.intercalate "." (segments.map Segment.text)

/-- Segments that can be written: their names are names without dots, and the last is a leaf. -/
structure WellFormed (segments : List Segment) : Prop where
  named : ∀ segment ∈ segments, segment.IsNamed
  noDot : ∀ segment ∈ segments, '.' ∉ segment.name.toList
  leaf : EndsInLeaf segments

/-- A path that ends in a leaf has a segment. -/
theorem ne_nil_of_endsInLeaf (leaf : EndsInLeaf segments) : segments ≠ [] := by
  rintro rfl
  obtain ⟨_, isLast⟩ := leaf
  cases isLast

/-- A written path has the characters of its segments with dots between. -/
theorem toList_written (segments : List Segment) :
    (written segments).toList = ['.'].intercalate (segments.map Segment.characters) := by
  rw [written, String.toList_intercalate, List.map_map]
  rfl

/-- A dot in the spelling of a segment is one in its name. -/
theorem dot_mem_characters_iff {segment : Segment} :
    '.' ∈ segment.characters ↔ '.' ∈ segment.name.toList := by
  cases segment with
  | literal key => rfl
  | placeholder name => simp [Segment.characters_placeholder, Segment.name]

/-- The parts of a text are what some segments are written as exactly when the text is what they
are written as and their names have no dots. -/
theorem pieces_eq_characters_iff (notEmpty : segments ≠ []) :
    Text.pieces '.' text.toList = segments.map Segment.characters ↔
      text = written segments ∧ ∀ segment ∈ segments, '.' ∉ segment.name.toList := by
  rw [Text.pieces_eq_iff (by simpa using notEmpty), ← toList_written, String.toList_inj,
    List.forall_mem_map]
  simp only [dot_mem_characters_iff]

/-- A text is read as a path exactly when it is what the segments are written as. -/
theorem Path.parse_eq_ok_iff :
    Path.parse text = .ok path ↔
      path.text = text ∧ text = written path.segments ∧ WellFormed path.segments := by
  constructor
  · intro parsed
    obtain ⟨isText, leaf⟩ := Path.endsInLeaf_of_parse parsed
    have read : Segment.ofParts (Text.pieces '.' text.toList) = .ok path.segments := by
      unfold Path.parse at parsed
      split at parsed
      · cases parsed
      split at parsed
      · cases parsed
      rename_i segments read
      split at parsed
      · cases parsed
      · cases parsed
        exact read
    obtain ⟨isWritten, named⟩ := Segment.ofParts_eq_ok_iff.mp read
    obtain ⟨spelled, noDot⟩ := (pieces_eq_characters_iff (ne_nil_of_endsInLeaf leaf)).mp isWritten
    exact ⟨isText, spelled, named, noDot, leaf⟩
  · rintro ⟨isText, spelled, named, noDot, leaf⟩
    have isWritten := (pieces_eq_characters_iff (ne_nil_of_endsInLeaf leaf)).mpr ⟨spelled, noDot⟩
    have read := Segment.ofParts_eq_ok_iff.mpr ⟨isWritten, named⟩
    have notEmpty : ¬ text.toList.isEmpty = true := by
      intro empty
      have parts := Segment.exists_ofParts_iff.mp ⟨_, read⟩
      rw [List.isEmpty_iff.mp empty] at parts
      exact (parts [] (.head _)).1 rfl
    obtain ⟨key, isLeaf⟩ := leaf
    rw [Path.parse, if_neg notEmpty, read]
    dsimp only
    rw [isLeaf]
    cases path
    cases isText
    rfl

/-- The last part of what is written begins as a placeholder unless the last segment is a leaf. -/
theorem endsInLeaf_iff (notEmpty : segments ≠ []) (named : ∀ segment ∈ segments, segment.IsNamed) :
    EndsInLeaf segments ↔
      ∀ last, (segments.map Segment.characters).getLast? = some last → last.head? ≠ some '$' := by
  obtain ⟨final, isFinal⟩ := Option.ne_none_iff_exists'.mp fun empty =>
    notEmpty (List.getLast?_eq_none_iff.mp empty)
  have isNamed := named final (List.mem_of_getLast? isFinal)
  rw [EndsInLeaf, List.getLast?_map, isFinal]
  cases final with
  | literal key => simpa [Segment.characters, Segment.text] using isNamed.noSign key rfl
  | placeholder name => simp [Segment.characters_placeholder]

/-- The texts that are read as a path, by their parts between dots. -/
theorem Path.exists_parse_iff :
    (∃ path, Path.parse text = .ok path) ↔
      text ≠ "" ∧ (∀ part ∈ text.toList.splitOn '.', part ≠ [] ∧ part ≠ ['$']) ∧
        ∀ last, (text.toList.splitOn '.').getLast? = some last → last.head? ≠ some '$' := by
  rw [← Text.pieces_eq_splitOn]
  constructor
  · rintro ⟨path, parsed⟩
    obtain ⟨-, spelled, named, noDot, leaf⟩ := Path.parse_eq_ok_iff.mp parsed
    have notEmpty := ne_nil_of_endsInLeaf leaf
    have isWritten := (pieces_eq_characters_iff notEmpty).mpr ⟨spelled, noDot⟩
    refine ⟨?_, Segment.exists_ofParts_iff.mp
      ⟨_, Segment.ofParts_eq_ok_iff.mpr ⟨isWritten, named⟩⟩, ?_⟩
    · rintro rfl
      cases parsed
    · rw [isWritten]
      exact (endsInLeaf_iff notEmpty named).mp leaf
  · rintro ⟨-, parts, last⟩
    obtain ⟨segments, read⟩ := Segment.exists_ofParts_iff.mpr parts
    obtain ⟨isWritten, named⟩ := Segment.ofParts_eq_ok_iff.mp read
    have notEmpty : segments ≠ [] := by
      rintro rfl
      exact pieces_ne_nil '.' [] _ isWritten
    rw [isWritten] at last
    obtain ⟨spelled, noDot⟩ := (pieces_eq_characters_iff notEmpty).mp isWritten
    exact ⟨⟨text, segments⟩, Path.parse_eq_ok_iff.mpr
      ⟨rfl, spelled, named, noDot, (endsInLeaf_iff notEmpty named).mpr last⟩⟩

end Paths

end Dashboard.Permission
