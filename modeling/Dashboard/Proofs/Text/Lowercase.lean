import Dashboard.Text.Blank
import Dashboard.Text.Lowercase
import Mathlib.Data.List.Forall2
import Mathlib.Data.List.TakeWhile
import Mathlib.Data.Nat.Bitwise

/-!
# Lower case as a normal form

A text in lower case is its own lower-case form, and one without blanks at its ends keeps
none there when it is put into lower case. Both come from the single characters: the images
of the mapping are characters that it does not move, and it makes no blanks.
-/

namespace Dashboard.Text

/-- The code points that the simple mapping moves, each with its image. -/
def movedCodes : List (Nat × Nat) := Unicode.lowercaseRuns.flatMap Unicode.CaseRun.pairs

/-- A set of code points as the bits of a number. -/
def bitsOf (codes : List Nat) : Nat :=
  codes.foldr (fun code bits => 1 <<< code ||| bits) 0

/-- The bits that are set are those of the code points in the set. -/
theorem testBit_bitsOf {codes : List Nat} {code : Nat} :
    (bitsOf codes).testBit code = true ↔ code ∈ codes := by
  induction codes with
  | nil => simp [bitsOf]
  | cons first rest inductionHypothesis =>
    have atFirst : (1 <<< first).testBit code = true ↔ code = first := by
      rw [Nat.one_shiftLeft, Nat.testBit_two_pow]
      simp [eq_comm]
    rw [bitsOf, List.foldr_cons, Nat.testBit_or, Bool.or_eq_true, atFirst, List.mem_cons]
    exact or_congr_right inductionHypothesis

/-- No image is moved again. The sets are compared as numbers, which the kernel does at once. -/
theorem bitsOf_moved_and_images :
    bitsOf (movedCodes.map Prod.fst) &&& bitsOf (movedCodes.map Prod.snd) = 0 := by
  decide +kernel

/-- Images are characters in lower case, and no blanks. -/
theorem images_lower : ∀ pair ∈ movedCodes,
    (Char.ofNat pair.2).toNat = pair.2 ∧
      asciiLower (Char.ofNat pair.2) = Char.ofNat pair.2 ∧
      Char.ofNat pair.2 ≠ 'İ' ∧ Char.ofNat pair.2 ≠ 'Σ' ∧
      isBlank (Char.ofNat pair.2) = false := by
  decide +kernel

/-- The image of a code point that some run moves. -/
def simpleImage? (code : Nat) : Option Nat :=
  Unicode.lowercaseRuns.findSome? fun run => run.image? code

/-- An image in a run is one of the pairs of the run. -/
theorem mem_pairs_of_image? {run : Unicode.CaseRun} {code image : Nat}
    (isImage : run.image? code = some image) : (code, image) ∈ run.pairs := by
  simp only [Unicode.CaseRun.image?, Option.ite_none_right_eq_some, Option.some.injEq]
    at isImage
  obtain ⟨⟨behind, onStep, inCount⟩, rfl⟩ := isImage
  have position : run.1 + (code - run.1) / run.2.2.1 * run.2.2.1 = code := by
    rw [Nat.div_mul_cancel (Nat.dvd_of_mod_eq_zero onStep)]
    omega
  refine List.mem_map.mpr ⟨(code - run.1) / run.2.2.1, List.mem_range.mpr inCount, ?_⟩
  simp only [position]

/-- A code point that is moved stands in the table with its image. -/
theorem mem_movedCodes {code image : Nat} (isImage : simpleImage? code = some image) :
    (code, image) ∈ movedCodes := by
  obtain ⟨run, isRun, ofRun⟩ := List.exists_of_findSome?_eq_some isImage
  exact List.mem_flatMap.mpr ⟨run, isRun, mem_pairs_of_image? ofRun⟩

/-- No image is moved again. -/
theorem simpleImage?_image {code image : Nat} (isImage : simpleImage? code = some image) :
    simpleImage? image = none := by
  by_contra moved
  obtain ⟨next, isNext⟩ := Option.ne_none_iff_exists'.mp moved
  have isCode := List.mem_map_of_mem (f := Prod.fst) (mem_movedCodes isNext)
  have isImageCode := List.mem_map_of_mem (f := Prod.snd) (mem_movedCodes isImage)
  have both := congrArg (Nat.testBit · image) bitsOf_moved_and_images
  simp only [Nat.testBit_and, testBit_bitsOf.mpr isCode, testBit_bitsOf.mpr isImageCode,
    Nat.zero_testBit] at both
  cases both

/-- A character that stays as it is wherever it stands. -/
def Settled (character : Char) : Prop :=
  character ≠ 'Σ' ∧ lowercaseChar character = [character]

/-- Both small sigmas stay as they are. -/
theorem settled_sigmas : Settled 'σ' ∧ Settled 'ς' := by
  unfold Settled
  decide +kernel

/-- What a character becomes: characters that stay as they are, and no blanks unless it is
one itself. -/
def IsImage (character : Char) (image : List Char) : Prop :=
  image ≠ [] ∧ (∀ part ∈ image, Settled part) ∧
    (isBlank character = false → ∀ part ∈ image, isBlank part = false)

/-- A character that stays as it is can be the image of another, unless it brings a blank. -/
theorem isImage_singleton {character image : Char} (settled : Settled image)
    (noBlank : isBlank character = false → isBlank image = false) :
    IsImage character [image] :=
  ⟨by simp, by simpa using settled, by simpa using noBlank⟩

/-- The lowercase form of an ASCII character stays as it is. -/
theorem isImage_asciiLower {character : Char} (ascii : character.toNat < 0x80) :
    IsImage character [asciiLower character] := by
  have each : ∀ code < 0x80, asciiLower (Char.ofNat code) ≠ 'Σ' ∧
      lowercaseChar (asciiLower (Char.ofNat code)) = [asciiLower (Char.ofNat code)] ∧
      (isBlank (Char.ofNat code) = false → isBlank (asciiLower (Char.ofNat code)) = false) := by
    decide +kernel
  obtain ⟨noSigma, settled, noBlank⟩ := each character.toNat ascii
  rw [Char.ofNat_toNat] at noSigma settled noBlank
  exact isImage_singleton ⟨noSigma, settled⟩ noBlank

/-- What the dotted capital becomes stays as it is. -/
theorem settled_dotted : Settled 'i' ∧ Settled (Char.ofNat 0x307) := by
  unfold Settled
  decide +kernel

/-- The dotted capital becomes a letter with a dot above, of which neither is a blank. -/
theorem isImage_dotted : IsImage 'İ' ['i', Char.ofNat 0x307] := by
  have noBlanks : isBlank 'i' = false ∧ isBlank (Char.ofNat 0x307) = false := by decide
  refine ⟨List.cons_ne_nil _ _, ?_, fun _ => ?_⟩
  · simpa using settled_dotted
  · simpa using noBlanks

/-- The image of a code point by the simple mapping stays as it is. -/
theorem isImage_simpleImage {character : Char} {image : Nat}
    (isSimple : simpleImage? character.toNat = some image) :
    IsImage character [Char.ofNat image] := by
  obtain ⟨code, lower, noDotted, noSigma, noBlank⟩ := images_lower _ (mem_movedCodes isSimple)
  have again : simpleImage? (Char.ofNat image).toNat = none := by
    rw [code]
    exact simpleImage?_image isSimple
  apply isImage_singleton ⟨noSigma, ?_⟩ fun _ => noBlank
  unfold simpleImage? at again
  simp only [lowercaseChar, lower, noDotted, again, ite_self, if_false]

/-- Every character but the capital sigma becomes an image without looking at its neighbours. -/
theorem isImage_lowercaseChar {character : Char} (noSigma : character ≠ 'Σ') :
    IsImage character (lowercaseChar character) := by
  by_cases ascii : character.toNat < 0x80
  · rw [lowercaseChar, if_pos ascii]
    exact isImage_asciiLower ascii
  · by_cases isDotted : character = 'İ'
    · rw [lowercaseChar, if_neg ascii, if_pos isDotted, isDotted]
      exact isImage_dotted
    · have bySimple : lowercaseChar character =
          (simpleImage? character.toNat).elim [character] fun image => [Char.ofNat image] := by
        rw [lowercaseChar, if_neg ascii, if_neg isDotted, ← simpleImage?]
        cases simpleImage? character.toNat <;> rfl
      cases isSimple : simpleImage? character.toNat with
      | some image =>
        rw [bySimple, isSimple]
        exact isImage_simpleImage isSimple
      | none =>
        rw [isSimple] at bySimple
        rw [bySimple]
        exact isImage_singleton ⟨noSigma, bySimple⟩ id

/-- A text becomes the images of its characters, one after the other. -/
theorem exists_images (before reversed characters : List Char) :
    ∃ images, List.Forall₂ IsImage characters images ∧
      lowercaseFrom before reversed characters = reversed.reverse ++ images.flatten := by
  induction characters generalizing before reversed with
  | nil => exact ⟨[], .nil, by simp [lowercaseFrom]⟩
  | cons character rest inductionHypothesis =>
    obtain ⟨image, isImage, unfolded⟩ : ∃ image, IsImage character image ∧
        lowercaseFrom before reversed (character :: rest) =
          lowercaseFrom (character :: before) (image.reverse ++ reversed) rest := by
      refine ⟨_, ?_, rfl⟩
      split
      · split
        · exact isImage_singleton settled_sigmas.2 fun _ => by decide
        · exact isImage_singleton settled_sigmas.1 fun _ => by decide
      · rename_i noSigma
        exact isImage_lowercaseChar noSigma
    obtain ⟨images, areImages, joined⟩ :=
      inductionHypothesis (character :: before) (image.reverse ++ reversed)
    refine ⟨image :: images, .cons isImage areImages, ?_⟩
    rw [unfolded, joined]
    simp

/-- Characters that stay as they are stay so in a text. -/
theorem lowercaseFrom_of_settled {characters : List Char}
    (settled : ∀ character ∈ characters, Settled character) (before reversed : List Char) :
    lowercaseFrom before reversed characters = reversed.reverse ++ characters := by
  induction characters generalizing before reversed with
  | nil => simp [lowercaseFrom]
  | cons character rest inductionHypothesis =>
    obtain ⟨⟨noSigma, stays⟩, others⟩ := List.forall_mem_cons.mp settled
    rw [lowercaseFrom, if_neg noSigma, stays, inductionHypothesis others]
    simp

/-- Characters of images stay as they are. -/
theorem settled_of_images {characters : List Char} {images : List (List Char)}
    (areImages : List.Forall₂ IsImage characters images) :
    ∀ part ∈ images.flatten, Settled part := by
  induction areImages with
  | nil => simp
  | cons isImage _ inductionHypothesis =>
    rw [List.flatten_cons, List.forall_mem_append]
    exact ⟨isImage.2.1, inductionHypothesis⟩

/-- The lower-case form of a text is its own lower-case form. -/
theorem lowercase_lowercase (text : String) : lowercase (lowercase text) = lowercase text := by
  obtain ⟨images, areImages, joined⟩ := exists_images [] [] text.toList
  have settled := settled_of_images areImages
  rw [lowercase, lowercase, joined, String.toList_ofList, List.reverse_nil, List.nil_append,
    lowercaseFrom_of_settled settled, List.reverse_nil, List.nil_append]

/-- Neither end is a blank. -/
def Trimmed (characters : List Char) : Prop :=
  (∀ character ∈ characters.head?, isBlank character = false) ∧
    ∀ character ∈ characters.getLast?, isBlank character = false

theorem trimmed_reverse {characters : List Char} (trimmed : Trimmed characters) :
    Trimmed characters.reverse := by
  simpa [Trimmed, and_comm] using trimmed

/-- Behind the trimmed blanks stands no blank. -/
theorem head_trimStart (characters : List Char) :
    ∀ character ∈ (trimStart characters).head?, isBlank character = false := by
  intro character isHead
  have first := List.head?_dropWhile_not isBlank characters
  rw [trimStart] at isHead
  rw [Option.mem_def.mp isHead] at first
  simpa using first

/-- Trimming trims. -/
theorem trimmed_trimChars (characters : List Char) : Trimmed (trimChars characters) := by
  refine trimmed_reverse ⟨head_trimStart _, ?_⟩
  intro character isLast
  -- The last character that is left is the first one behind the blanks at the start.
  obtain ⟨front, joined⟩ := List.dropWhile_suffix isBlank (l := (trimStart characters).reverse)
  apply head_trimStart characters
  rw [← List.getLast?_reverse, ← joined, List.getLast?_append]
  exact Option.mem_def.mpr (by rw [← trimStart, Option.mem_def.mp isLast]; rfl)

/-- What is trimmed has no blanks to lose in front. -/
theorem trimStart_of_trimmed {characters : List Char} (trimmed : Trimmed characters) :
    trimStart characters = characters := by
  cases characters with
  | nil => rfl
  | cons first rest =>
    have noBlank : isBlank first = false := trimmed.1 first rfl
    simp [trimStart, noBlank]

/-- What is trimmed is not trimmed any further. -/
theorem trimChars_of_trimmed {characters : List Char} (trimmed : Trimmed characters) :
    trimChars characters = characters := by
  rw [trimChars, trimStart_of_trimmed trimmed, trimStart_of_trimmed (trimmed_reverse trimmed),
    List.reverse_reverse]

/-- No blank comes to the front of the images. -/
theorem head_flatten_images {characters : List Char} {images : List (List Char)}
    (areImages : List.Forall₂ IsImage characters images)
    (noBlank : ∀ character ∈ characters.head?, isBlank character = false) :
    ∀ part ∈ images.flatten.head?, isBlank part = false := by
  cases areImages with
  | nil => simp
  | @cons character image _ images isImage _ =>
    intro part isFirst
    obtain ⟨notEmpty, _, keepsBlanks⟩ := isImage
    obtain ⟨first, others, rfl⟩ := List.exists_cons_of_ne_nil notEmpty
    cases isFirst
    exact keepsBlanks (noBlank character rfl) part (.head _)

theorem isImage_reverse {character : Char} {image : List Char} (isImage : IsImage character image) :
    IsImage character image.reverse := by
  simpa [IsImage] using isImage

/-- Images of trimmed characters are trimmed. -/
theorem trimmed_flatten_images {characters : List Char} {images : List (List Char)}
    (areImages : List.Forall₂ IsImage characters images) (trimmed : Trimmed characters) :
    Trimmed images.flatten := by
  refine ⟨head_flatten_images areImages trimmed.1, ?_⟩
  -- The end is the front of the reversed text, whose images are reversed as well.
  have reversed : List.Forall₂ IsImage characters.reverse (images.map List.reverse).reverse := by
    rw [List.forall₂_reverse_iff, List.forall₂_map_right_iff]
    exact areImages.imp fun _ _ => isImage_reverse
  have atEnd := head_flatten_images reversed (trimmed_reverse trimmed).1
  rwa [← List.reverse_flatten, List.head?_reverse] at atEnd

/-- A text without blanks at its ends has none there in lower case. -/
theorem trim_lowercase_trim (text : String) :
    trim (lowercase (trim text)) = lowercase (trim text) := by
  obtain ⟨images, areImages, joined⟩ := exists_images [] [] (trim text).toList
  have trimmed : Trimmed (trim text).toList := by
    rw [trim, String.toList_ofList]
    exact trimmed_trimChars _
  rw [List.reverse_nil, List.nil_append] at joined
  rw [lowercase, joined, trim, String.toList_ofList,
    trimChars_of_trimmed (trimmed_flatten_images areImages trimmed)]

/-- Only blanks are trimmed away altogether. -/
theorem trim_eq_empty_iff {text : String} : trim text = "" ↔ isBlankText text = true := by
  have trimmedAway (characters : List Char) :
      trimChars characters = [] ↔ ∀ character ∈ characters, isBlank character = true := by
    rw [trimChars, List.reverse_eq_nil_iff, trimStart, List.dropWhile_eq_nil_iff]
    constructor
    · intro blanks
      -- The first character behind the blanks at the start would be no blank.
      have nothing : trimStart characters = [] := by
        by_contra something
        obtain ⟨first, rest, isStart⟩ := List.exists_cons_of_ne_nil something
        have noBlank := head_trimStart characters first (by rw [isStart]; rfl)
        rw [blanks first (by rw [isStart]; simp)] at noBlank
        cases noBlank
      exact List.dropWhile_eq_nil_iff.mp nothing
    · intro blanks character isPart
      exact blanks character ((List.dropWhile_suffix isBlank).subset (List.mem_reverse.mp isPart))
  rw [trim, ← String.toList_inj, String.toList_ofList, isBlankText, List.all_eq_true]
  exact trimmedAway text.toList

/-- No character vanishes in lower case. -/
theorem eq_empty_of_lowercase {text : String} (vanished : lowercase text = "") : text = "" := by
  obtain ⟨images, areImages, joined⟩ := exists_images [] [] text.toList
  rw [lowercase, joined, ← String.toList_inj, String.toList_ofList] at vanished
  rw [← String.toList_inj]
  cases isText : text.toList with
  | nil => rfl
  | cons character rest =>
    rw [isText] at areImages
    cases areImages with
    | cons isImage _ =>
      obtain ⟨noImage, -⟩ : _ ∧ _ := by simpa using vanished
      exact absurd noImage isImage.1

end Dashboard.Text
