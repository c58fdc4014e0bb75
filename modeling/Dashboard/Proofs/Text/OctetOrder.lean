import Dashboard.Text.Utf8
import Mathlib.Tactic.SplitIfs

/-!
# The order of octets

Texts compare by code points as their octets compare one by one: the first octets in which two
different characters part are in the order of the characters, because longer characters lead
with greater octets and characters of one length are written from their highest bits on.
-/

namespace Dashboard.Text

/-- Of two different texts the one that is not less is greater. -/
theorem lt_of_not_lt_of_ne {left right : String} (notLess : ¬ left < right)
    (differ : left ≠ right) : right < left :=
  String.not_le.mp fun forward => differ (String.le_antisymm forward (String.not_lt.mp notLess))

namespace Utf8

theorem encode_eq_flatMap (characters : List Char) :
    encode characters = characters.flatMap encodeChar := by
  have onto (characters : List Char) (reversed : List UInt8) :
      (characters.foldl (fun reversed character => (encodeChar character).reverse ++ reversed)
        reversed).reverse = reversed.reverse ++ characters.flatMap encodeChar := by
    induction characters generalizing reversed with
    | nil => simp
    | cons character rest inductionHypothesis =>
      rw [List.foldl_cons, inductionHypothesis]
      simp
  exact onto characters []

/-- The numbers of the octets of a code point. -/
def octetNumbers (code : Nat) : List Nat :=
  if code < 0x80 then [code]
  else if code < 0x800 then [0xC0 + code / 64, 0x80 + code % 64]
  else if code < 0x10000 then
    [0xE0 + code / 64 / 64, 0x80 + code / 64 % 64, 0x80 + code % 64]
  else
    [0xF0 + code / 64 / 64 / 64, 0x80 + code / 64 / 64 % 64, 0x80 + code / 64 % 64,
      0x80 + code % 64]

/-- The octets of a character are the numbers of its code point. -/
theorem encodeChar_eq_map (character : Char) :
    encodeChar character = (octetNumbers character.toNat).map UInt8.ofNat := by
  unfold encodeChar octetNumbers
  simp only [Nat.div_div_eq_div_mul]
  split_ifs <;> rfl

/-- Two lists part at some place, and the first is less there. -/
def PartsBelow : List Nat → List Nat → Prop
  | first :: firsts, second :: seconds =>
    first < second ∨ first = second ∧ PartsBelow firsts seconds
  | _, _ => False

/-- The octets of a lesser code point part below those of a greater one. -/
theorem partsBelow_octetNumbers {left right : Nat} (less : left < right) :
    PartsBelow (octetNumbers left) (octetNumbers right) := by
  unfold octetNumbers
  split_ifs <;> simp only [PartsBelow] <;> omega

/-- Every number of a code point fits an octet. -/
theorem octetNumbers_lt {code : Nat} (bounded : code < 0x110000) :
    ∀ number ∈ octetNumbers code, number < 256 := by
  unfold octetNumbers
  split_ifs <;> simp <;> omega

/-- Octets that part below others come before them, whatever follows. -/
theorem append_lt_of_partsBelow {firsts seconds : List Nat} (parts : PartsBelow firsts seconds)
    (bounded : ∀ number ∈ seconds, number < 256) (left right : List UInt8) :
    firsts.map UInt8.ofNat ++ left < seconds.map UInt8.ofNat ++ right := by
  induction firsts generalizing seconds with
  | nil => cases parts
  | cons first firsts inductionHypothesis =>
    cases seconds with
    | nil => cases parts
    | cons second seconds =>
      obtain ⟨isOctet, areOctets⟩ := List.forall_mem_cons.mp bounded
      rw [List.map_cons, List.map_cons, List.cons_append, List.cons_append,
        List.cons_lt_cons_iff]
      rcases parts with less | ⟨rfl, behind⟩
      · left
        rw [UInt8.lt_iff_toNat_lt, UInt8.toNat_ofNat', UInt8.toNat_ofNat']
        omega
      · exact .inr ⟨rfl, inductionHypothesis behind areOctets⟩

/-- The octets of a lesser character come first, whatever stands behind. -/
theorem encodeChar_append_lt {left right : Char} (less : left < right)
    (leftRest rightRest : List UInt8) :
    encodeChar left ++ leftRest < encodeChar right ++ rightRest := by
  have bounded : right.toNat < 0x110000 := by
    have valid := right.valid
    simp only [UInt32.isValidChar, Nat.isValidChar] at valid
    change right.val.toNat < _
    omega
  rw [encodeChar_eq_map, encodeChar_eq_map]
  exact append_lt_of_partsBelow (partsBelow_octetNumbers less) (octetNumbers_lt bounded) _ _

/-- Every character has an octet. -/
theorem encodeChar_ne_nil (character : Char) : encodeChar character ≠ [] := by
  rw [encodeChar_eq_map, octetNumbers]
  split_ifs <;> simp

/-- The octets of lesser characters come first. -/
theorem flatMap_encodeChar_lt {left right : List Char} (less : left < right) :
    left.flatMap encodeChar < right.flatMap encodeChar := by
  induction left generalizing right with
  | nil =>
    cases right with
    | nil => exact absurd less (List.lt_irrefl _)
    | cons character rest =>
      obtain ⟨first, others, isEncoded⟩ := List.exists_cons_of_ne_nil (encodeChar_ne_nil character)
      simp [isEncoded]
  | cons first firsts inductionHypothesis =>
    cases right with
    | nil => exact absurd less (List.not_lt_nil _)
    | cons second seconds =>
      rw [List.flatMap_cons, List.flatMap_cons]
      rcases List.cons_lt_cons_iff.mp less with isLess | ⟨rfl, behind⟩
      · exact encodeChar_append_lt isLess _ _
      · exact List.append_left_lt (inductionHypothesis behind)

/-- The order of octets is the order of code points. -/
theorem ofString_lt_iff (left right : String) :
    ofString left < ofString right ↔ left < right := by
  unfold ofString
  rw [encode_eq_flatMap, encode_eq_flatMap]
  refine ⟨fun octets => ?_, flatMap_encodeChar_lt⟩
  rcases Decidable.em (left < right) with isLess | notLess
  · exact isLess
  exfalso
  rcases Decidable.em (left = right) with rfl | differ
  · exact List.lt_irrefl _ octets
  · exact List.lt_asymm octets (flatMap_encodeChar_lt (lt_of_not_lt_of_ne notLess differ))

end Utf8

end Dashboard.Text
