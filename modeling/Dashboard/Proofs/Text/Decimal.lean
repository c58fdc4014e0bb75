import Dashboard.Text.Ascii

/-!
# Decimal numerals

A run of characters is read as a number exactly when it is made of decimal digits, at least one,
and the number is the one that they denote. Every number is read back from its text.
-/

namespace Dashboard.Text

variable {character : Char} {characters : List Char} {number total : Nat}

/-- Decimal digits, at least one. -/
def IsNumeral (characters : List Char) : Prop :=
  characters ≠ [] ∧ ∀ character ∈ characters, character.isDigit = true

/-- A digit is worth its distance from zero, and nothing else is a digit. -/
theorem digitValue?_eq_some_iff {digit : Nat} :
    digitValue? character = some digit ↔
      character.isDigit = true ∧ digit = character.toNat - '0'.toNat := by
  have isDigit : '0' ≤ character ∧ character ≤ '9' ↔ character.isDigit = true := by
    simp [Char.isDigit, Char.le_def]
  rw [digitValue?, Option.ite_none_right_eq_some, isDigit, Option.some.injEq]
  exact and_congr_right fun _ => eq_comm

/-- One digit more of a number that may have met a character that is none. -/
def appendDigit (value : Option Nat) (character : Char) : Option Nat :=
  value.bind fun total => (digitValue? character).map fun digit => total * 10 + digit

/-- Behind a character that is no digit, nothing is read any more. -/
theorem foldl_appendDigit_none : characters.foldl appendDigit none = none := by
  induction characters with
  | nil => rfl
  | cons character rest inductionHypothesis => exact inductionHypothesis

/-- Digits behind a number are read onto it in base ten. -/
theorem foldl_appendDigit_eq_some_iff :
    characters.foldl appendDigit (some total) = some number ↔
      (∀ character ∈ characters, character.isDigit = true) ∧
        number = Nat.ofDigitChars 10 characters total := by
  induction characters generalizing total with
  | nil =>
    rw [List.foldl_nil, Nat.ofDigitChars_nil, Option.some.injEq, and_iff_right (by simp)]
    exact eq_comm
  | cons character rest inductionHypothesis =>
    rw [List.foldl_cons, List.forall_mem_cons, Nat.ofDigitChars_cons, Nat.mul_comm]
    cases isDigit : digitValue? character with
    | none =>
      have noDigit : character.isDigit ≠ true := by
        intro digit
        have read := digitValue?_eq_some_iff.mpr ⟨digit, rfl⟩
        rw [isDigit] at read
        cases read
      simp [appendDigit, isDigit, foldl_appendDigit_none, noDigit]
    | some digit =>
      obtain ⟨decimal, rfl⟩ := digitValue?_eq_some_iff.mp isDigit
      simp [appendDigit, isDigit, inductionHypothesis, decimal]

/-- The characters that are read as a number. -/
theorem natOfDigits?_eq_some_iff :
    natOfDigits? characters = some number ↔
      IsNumeral characters ∧ number = Nat.ofDigitChars 10 characters 0 := by
  unfold natOfDigits?
  cases characters with
  | nil => simp [IsNumeral]
  | cons character rest =>
    rw [if_neg (by simp), IsNumeral, and_iff_right (List.cons_ne_nil _ _)]
    exact foldl_appendDigit_eq_some_iff

/-- A number is written as a numeral. -/
theorem isNumeral_toString (number : Nat) : IsNumeral (toString number).toList := by
  rw [Nat.toString_eq_repr, Nat.toList_repr]
  exact ⟨Nat.toDigits_ne_nil, fun _ => Nat.isDigit_of_mem_toDigits (by decide) (by decide)⟩

theorem ofDigitChars_toString (number : Nat) :
    Nat.ofDigitChars 10 (toString number).toList 0 = number := by
  rw [Nat.toString_eq_repr, Nat.toList_repr, Nat.ofDigitChars_ten_toDigits]

end Dashboard.Text
