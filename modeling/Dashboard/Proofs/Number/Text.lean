import Dashboard.Json.Basic

/-!
# Texts of numbers

The text of an integer is made of digits and a sign. The text of a binary64 number has a
point or an exponent, whatever its value, so the two are never the same.
-/

namespace Dashboard

/-- A character that only the texts of binary64 numbers have. -/
def Double.IsMark (character : Char) : Prop := character = '.' ∨ character = 'e'

/-- A number in positional form shows a point. -/
theorem Double.isMark_mem_positional (digits : List Char) (place : Int) :
    ∃ mark ∈ (positional digits place).toList, IsMark mark := by
  refine ⟨'.', ?_, .inl rfl⟩
  unfold positional
  split
  · simp
  · dsimp only
    split <;> simp

/-- A number in scientific form shows its exponent. -/
theorem Double.isMark_mem_scientific (digits : List Char) (place : Int) :
    ∃ mark ∈ (scientific digits place).toList, IsMark mark :=
  ⟨'e', by simp [scientific], .inr rfl⟩

/-- Every binary64 number is written with a point or an exponent. -/
theorem Double.isMark_mem_text (number : Double) :
    ∃ mark ∈ number.text.toList, IsMark mark := by
  have behindSign {sign body : String} (marked : ∃ mark ∈ body.toList, IsMark mark) :
      ∃ mark ∈ (sign ++ body).toList, IsMark mark := by
    obtain ⟨mark, isMember, isMark⟩ := marked
    exact ⟨mark, by simp [isMember], isMark⟩
  unfold text
  dsimp only
  split
  · exact behindSign ⟨'.', by simp, .inl rfl⟩
  · split
    · exact behindSign (isMark_mem_positional _ _)
    · exact behindSign (isMark_mem_scientific _ _)

/-- The decimal digits of a natural number show neither point nor exponent. -/
theorem Double.not_isMark_of_mem_repr {value : Nat} {character : Char}
    (member : character ∈ value.repr.toList) : ¬ IsMark character := by
  rw [Nat.repr, String.toList_ofList] at member
  have isDigit := Nat.isDigit_of_mem_toDigits (by decide) (by decide) member
  rintro (rfl | rfl) <;> simp at isDigit

/-- No integer is written with a point or an exponent. -/
theorem Double.not_isMark_of_mem_toString {value : Int} {character : Char}
    (member : character ∈ (toString value).toList) : ¬ IsMark character := by
  cases value with
  | ofNat value => exact not_isMark_of_mem_repr member
  | negSucc value =>
    have split : character = '-' ∨ character ∈ (value + 1).repr.toList := by
      simpa [toString, Int.repr] using member
    rcases split with rfl | isDigit
    · rintro (isPoint | isExponent) <;> contradiction
    · exact not_isMark_of_mem_repr isDigit

/-- An integer and a binary64 number never have the same text. -/
theorem JsonNumber.text_int_ne_text_double (whole : Int) (fraction : Double) :
    (int whole).text ≠ (double fraction).text := by
  intro same
  obtain ⟨mark, isMember, isMark⟩ := fraction.isMark_mem_text
  have inInteger : mark ∈ (toString whole).toList := by
    rw [show toString whole = fraction.text from same]
    exact isMember
  exact Double.not_isMark_of_mem_toString inInteger isMark

end Dashboard
