import Dashboard.Proofs.Text.OctetOrder

/-!
# Octets that are read back

The octets of a text are read back as the text. Each octet of a character leaves the reader owing
the rest of it with the bits so far, and the bounds behind a first octet leave out only forms that
no character is written in.
-/

namespace Dashboard.Text.Utf8

variable {number code next : Nat} {reversed : List Char} {rest : List UInt8} {pending : Pending}

/-- A code point is no surrogate and at most the greatest. -/
theorem toNat_bounds (character : Char) :
    character.toNat < 0xD800 ∨ 0xDFFF < character.toNat ∧ character.toNat < 0x110000 :=
  character.valid

theorem toNat_ofNat_of_lt (isOctet : number < 256) : (UInt8.ofNat number).toNat = number := by
  rw [UInt8.toNat_ofNat', Nat.mod_eq_of_lt isOctet]

/-- An octet below 128 is read as a character of its own. -/
theorem decodeFrom_ascii (ascii : number < 0x80) :
    decodeFrom none reversed (UInt8.ofNat number :: rest) =
      decodeFrom none (Char.ofNat number :: reversed) rest := by
  have value := toNat_ofNat_of_lt (show number < 256 by omega)
  have isAscii : UInt8.ofNat number < 0x80 := by
    rw [UInt8.lt_iff_toNat_lt, value]
    exact ascii
  rw [decodeFrom, if_pos isAscii, value]

/-- The first octet of several. -/
theorem decodeFrom_leading (isOctet : number < 256) (leads : leading number = some pending) :
    decodeFrom none reversed (UInt8.ofNat number :: rest) =
      decodeFrom (some pending) reversed rest := by
  have value := toNat_ofNat_of_lt isOctet
  have notAscii : ¬ UInt8.ofNat number < 0x80 := by
    rw [UInt8.lt_iff_toNat_lt, value]
    intro ascii
    have small : number < 0xC2 := Nat.lt_trans ascii (by decide)
    rw [leading, if_pos small] at leads
    cases leads
  rw [decodeFrom, if_neg notAscii, value, leads]

/-- What an octet that continues a character leaves. -/
theorem decodeFrom_continuation (isOctet : number < 256) (low : pending.low ≤ number)
    (high : number ≤ pending.high) :
    decodeFrom (some pending) reversed (UInt8.ofNat number :: rest) =
      if pending.owed ≤ 1 then
        decodeFrom none (Char.ofNat (pending.bits * 64 + (number - 0x80)) :: reversed) rest
      else
        decodeFrom (some ⟨pending.owed - 1, 0x80, 0xBF, pending.bits * 64 + (number - 0x80)⟩)
          reversed rest := by
  rw [decodeFrom, toNat_ofNat_of_lt isOctet]
  simp [low, high]

/-- The last octet that continues a character completes its code point. -/
theorem decodeFrom_last (isOctet : number < 256) (low : pending.low ≤ number)
    (high : number ≤ pending.high) (isLast : pending.owed ≤ 1)
    (complete : pending.bits * 64 + (number - 0x80) = code) :
    decodeFrom (some pending) reversed (UInt8.ofNat number :: rest) =
      decodeFrom none (Char.ofNat code :: reversed) rest := by
  rw [decodeFrom_continuation isOctet low high, if_pos isLast, complete]

/-- Behind the first of two octets. -/
theorem leading_of_two (low : 2 ≤ code) (high : code < 32) :
    leading (0xC0 + code) = some ⟨1, 0x80, 0xBF, code⟩ := by
  rw [leading, if_neg (by omega), if_pos (by omega), Nat.add_sub_cancel_left]

/-- Behind the first of three octets, with the bounds on the second one. -/
theorem leading_of_three (high : code < 16) (short : code = 0 → 32 ≤ next)
    (noSurrogate : code = 13 → next < 32) (sixBits : next < 64) :
    ∃ low high, leading (0xE0 + code) = some ⟨2, low, high, code⟩ ∧ low ≤ 0x80 + next ∧
      0x80 + next ≤ high := by
  by_cases least : code = 0
  · subst least
    exact ⟨0xA0, 0xBF, rfl, by have := short rfl; omega, by omega⟩
  by_cases beforeSurrogates : code = 13
  · subst beforeSurrogates
    exact ⟨0x80, 0x9F, rfl, by omega, by have := noSurrogate rfl; omega⟩
  refine ⟨0x80, 0xBF, ?_, by omega, by omega⟩
  rw [leading, if_neg (by omega), if_neg (by omega), if_neg (by omega), if_neg (by omega),
    if_pos (by omega), Nat.add_sub_cancel_left]

/-- Behind the first of four octets, with the bounds on the second one. -/
theorem leading_of_four (high : code ≤ 4) (short : code = 0 → 16 ≤ next)
    (bounded : code = 4 → next < 16) (sixBits : next < 64) :
    ∃ low high, leading (0xF0 + code) = some ⟨3, low, high, code⟩ ∧ low ≤ 0x80 + next ∧
      0x80 + next ≤ high := by
  by_cases least : code = 0
  · subst least
    exact ⟨0x90, 0xBF, rfl, by have := short rfl; omega, by omega⟩
  by_cases greatest : code = 4
  · subst greatest
    exact ⟨0x80, 0x8F, rfl, by omega, by have := bounded rfl; omega⟩
  refine ⟨0x80, 0xBF, ?_, by omega, by omega⟩
  rw [leading, if_neg (by omega), if_neg (by omega), if_neg (by omega), if_neg (by omega),
    if_neg (by omega), if_neg (by omega), if_pos (by omega), Nat.add_sub_cancel_left]

/-- The octets of a code point are read back as its character, whatever follows. -/
theorem decodeFrom_octetNumbers
    (valid : code < 0xD800 ∨ 0xDFFF < code ∧ code < 0x110000) :
    decodeFrom none reversed ((octetNumbers code).map UInt8.ofNat ++ rest) =
      decodeFrom none (Char.ofNat code :: reversed) rest := by
  unfold octetNumbers
  split_ifs with one two three <;>
    simp only [List.map_cons, List.map_nil, List.cons_append, List.nil_append]
  · exact decodeFrom_ascii one
  · rw [decodeFrom_leading (by omega) (leading_of_two (by omega) (by omega))]
    exact decodeFrom_last (by omega) (by simp) (by simp; omega) (by simp) (by simp; omega)
  · obtain ⟨low, high, leads, above, below⟩ :=
      leading_of_three (show code / 64 / 64 < 16 by omega)
        (show code / 64 / 64 = 0 → 32 ≤ code / 64 % 64 by omega) (by omega) (by omega)
    rw [decodeFrom_leading (by omega) leads,
      decodeFrom_continuation (by omega) above below, if_neg (by simp)]
    exact decodeFrom_last (by omega) (by simp) (by simp; omega) (by simp) (by simp; omega)
  · obtain ⟨low, high, leads, above, below⟩ :=
      leading_of_four (show code / 64 / 64 / 64 ≤ 4 by omega)
        (show code / 64 / 64 / 64 = 0 → 16 ≤ code / 64 / 64 % 64 by omega) (by omega) (by omega)
    rw [decodeFrom_leading (by omega) leads,
      decodeFrom_continuation (by omega) above below, if_neg (by simp),
      decodeFrom_continuation (by omega) (by simp) (by simp; omega), if_neg (by simp)]
    exact decodeFrom_last (by omega) (by simp) (by simp; omega) (by simp) (by simp; omega)

/-- The octets of a character are read back as it, with any octets behind. -/
theorem decodeFrom_encodeChar (character : Char) :
    decodeFrom none reversed (encodeChar character ++ rest) =
      decodeFrom none (character :: reversed) rest := by
  rw [encodeChar_eq_map, decodeFrom_octetNumbers (toNat_bounds character), Char.ofNat_toNat]

/-- The octets of some characters are read back as them. -/
theorem decodeFrom_encode (characters : List Char) :
    decodeFrom none reversed (encode characters) = some (reversed.reverse ++ characters) := by
  rw [encode_eq_flatMap]
  induction characters generalizing reversed with
  | nil => rw [List.flatMap_nil, decodeFrom, List.append_nil]
  | cons character rest inductionHypothesis =>
    rw [List.flatMap_cons, decodeFrom_encodeChar, inductionHypothesis, List.reverse_cons,
      List.append_assoc, List.singleton_append]

/-- A text is read back from its octets. -/
theorem toString?_encode (characters : List Char) :
    toString? (encode characters) = some (String.ofList characters) := by
  rw [toString?, decode?, decodeFrom_encode]
  rfl

theorem encode_append (left right : List Char) :
    encode (left ++ right) = encode left ++ encode right := by
  rw [encode_eq_flatMap, encode_eq_flatMap, encode_eq_flatMap, List.flatMap_append]

theorem encode_singleton (character : Char) : encode [character] = encodeChar character := by
  rw [encode_eq_flatMap, List.flatMap_singleton]

/-- A character that is not ASCII has no octet that is. -/
theorem le_of_mem_encodeChar {character : Char} (notAscii : 0x80 ≤ character.toNat) {octet : UInt8}
    (isMember : octet ∈ encodeChar character) : 0x80 ≤ octet.toNat := by
  have bounds := toNat_bounds character
  rw [encodeChar_eq_map] at isMember
  obtain ⟨number, isNumber, rfl⟩ := List.mem_map.mp isMember
  rw [toNat_ofNat_of_lt (octetNumbers_lt (by omega) number isNumber)]
  unfold octetNumbers at isNumber
  split_ifs at isNumber <;> simp only [List.mem_cons, List.not_mem_nil, or_false] at isNumber <;>
    omega

end Dashboard.Text.Utf8
