import Dashboard.Proofs.Text.Lowercase

/-!
# What trimming takes away

A text is its trimmed form with blanks on either side, and no other text without blanks at its
ends stands so inside it.
-/

namespace Dashboard.Text

variable {before core after characters : List Char}

/-- A run of characters is its trimmed form between blanks. -/
theorem exists_blanks_around (characters : List Char) :
    ∃ before after, (∀ character ∈ before, isBlank character = true) ∧
      (∀ character ∈ after, isBlank character = true) ∧
      characters = before ++ trimChars characters ++ after := by
  have atStart : characters.takeWhile isBlank ++ trimStart characters = characters :=
    List.takeWhile_append_dropWhile
  have atEnd : (trimStart characters).reverse.takeWhile isBlank ++ (trimChars characters).reverse =
      (trimStart characters).reverse := by
    rw [trimChars, List.reverse_reverse]
    exact List.takeWhile_append_dropWhile
  refine ⟨characters.takeWhile isBlank, ((trimStart characters).reverse.takeWhile isBlank).reverse,
    fun _ => List.mem_takeWhile_imp, fun _ isLast => ?_, ?_⟩
  · exact List.mem_takeWhile_imp (List.mem_reverse.mp isLast)
  · have atEnd := congrArg List.reverse atEnd
    rw [List.reverse_append, List.reverse_reverse, List.reverse_reverse] at atEnd
    rw [List.append_assoc, atEnd, atStart]

/-- Blanks in front are trimmed, however many there are. -/
theorem trimStart_append_of_blanks (blanks : ∀ character ∈ before, isBlank character = true) :
    trimStart (before ++ after) = trimStart after :=
  List.dropWhile_append_of_pos blanks

/-- Blanks on either side are trimmed away. -/
theorem trimChars_of_blanks_around (trimmed : Trimmed core)
    (blanksBefore : ∀ character ∈ before, isBlank character = true)
    (blanksAfter : ∀ character ∈ after, isBlank character = true) :
    trimChars (before ++ core ++ after) = core := by
  have blanksReversed : ∀ character ∈ after.reverse, isBlank character = true :=
    fun character isLast => blanksAfter character (List.mem_reverse.mp isLast)
  rw [trimChars, List.append_assoc, trimStart_append_of_blanks blanksBefore]
  cases core with
  | nil =>
    have nothing : trimStart after = [] := List.dropWhile_eq_nil_iff.mpr blanksAfter
    rw [List.nil_append, nothing]
    rfl
  | cons first rest =>
    have noBlank : isBlank first = false := trimmed.1 first rfl
    have kept : trimStart (first :: rest ++ after) = first :: rest ++ after := by
      simp [trimStart, noBlank]
    rw [kept, List.reverse_append, trimStart_append_of_blanks blanksReversed,
      trimStart_of_trimmed (trimmed_reverse trimmed), List.reverse_reverse]

/-- A text trims to one without blanks at its ends exactly when it is that one between blanks. -/
theorem trim_eq_iff {text trimmedText : String} (trimmed : Trimmed trimmedText.toList) :
    trim text = trimmedText ↔
      ∃ before after, (∀ character ∈ before, isBlank character = true) ∧
        (∀ character ∈ after, isBlank character = true) ∧
        text.toList = before ++ trimmedText.toList ++ after := by
  rw [trim, ← String.toList_inj, String.toList_ofList]
  constructor
  · intro same
    rw [← same]
    exact exists_blanks_around text.toList
  · rintro ⟨before, after, blanksBefore, blanksAfter, isText⟩
    rw [isText]
    exact trimChars_of_blanks_around trimmed blanksBefore blanksAfter

end Dashboard.Text
