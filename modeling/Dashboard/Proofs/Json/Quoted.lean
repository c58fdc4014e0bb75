import Dashboard.Json.Document
import Dashboard.Json.Printer
import Dashboard.Proofs.Text.Utf8
import Mathlib.Tactic.IntervalCases

/-!
# Quoted texts that are read back

A text in quotes is one line, and its octets are one token, the text itself: what stands for itself
is kept octet by octet, and each escape is read back as the character it was written for. From
there an object whose values are texts is read back with its members in the order they are written.
-/

namespace Dashboard.Json

open Text

/-- A character that stands for itself in quotes. -/
theorem escapeChar_of_plain {character : Char} (noQuote : character ≠ '"')
    (noBackslash : character ≠ '\\') (noControl : 0x20 ≤ character.toNat) :
    escapeChar character = [character] := by
  rw [escapeChar, if_neg noQuote, if_neg noBackslash, if_pos noControl]

/-- What is written for a character in quotes is no control. -/
theorem noControl_escapeChar (character : Char) :
    ∀ written ∈ escapeChar character, 0x20 ≤ written.toNat := by
  -- The list is tested element by element, since `decide` on the claim may run through all `Char`.
  suffices tested : (escapeChar character).all (fun written => 0x20 ≤ written.toNat) from
    fun written isWritten => of_decide_eq_true (List.all_eq_true.mp tested written isWritten)
  by_cases isQuote : character = '"'
  · subst isQuote
    rfl
  by_cases isBackslash : character = '\\'
  · subst isBackslash
    rfl
  rcases Nat.lt_or_ge character.toNat 0x20 with control | noControl
  · rw [← Char.ofNat_toNat character]
    generalize character.toNat = code at control
    interval_cases code <;> rfl
  · rw [escapeChar_of_plain isQuote isBackslash noControl, List.all_cons, List.all_nil,
      Bool.and_true, decide_eq_true noControl]

namespace Token

variable {octets rest reversed : List UInt8} {tokens : List Token}

/-- The part of a string that was read, without surrogates. -/
def StringPart.plain (reversed : List UInt8) : StringPart := ⟨reversed, none, false⟩

/-- An octet that stands for itself in a string. -/
def IsPlain (octet : UInt8) : Prop :=
  octet ≠ octetOf '"' ∧ octet ≠ octetOf '\\' ∧ 0x20 ≤ octet.toNat

/-- Octets that stand for themselves are kept. -/
theorem scan_of_plain (plain : ∀ octet ∈ octets, IsPlain octet) :
    scan (.string (.plain reversed)) tokens (octets ++ rest) =
      scan (.string (.plain (octets.reverse ++ reversed))) tokens rest := by
  induction octets generalizing reversed with
  | nil => rfl
  | cons octet octets inductionHypothesis =>
    obtain ⟨⟨noQuote, noBackslash, noControl⟩, plainRest⟩ := List.forall_mem_cons.mp plain
    have taken : step (.string (.plain reversed)) octet =
        some (.string (.plain (octet :: reversed)), []) := by
      rw [step, if_neg noQuote, if_neg noBackslash, if_neg (Nat.not_lt.mpr noControl)]
      rfl
    rw [List.cons_append, scan, taken]
    dsimp only
    rw [List.nil_append, inductionHypothesis plainRest, List.reverse_cons, List.append_assoc,
      List.singleton_append]

/-- The octets of a character that stands for itself stand for themselves. -/
theorem isPlain_of_mem_encodeChar {character : Char} (noQuote : character ≠ '"')
    (noBackslash : character ≠ '\\') (noControl : 0x20 ≤ character.toNat) :
    ∀ octet ∈ Utf8.encodeChar character, IsPlain octet := by
  intro octet isMember
  rcases Nat.lt_or_ge character.toNat 0x80 with ascii | notAscii
  · have isOctet : octet = UInt8.ofNat character.toNat := by
      rw [Utf8.encodeChar, if_pos ascii] at isMember
      exact List.mem_singleton.mp isMember
    have value : octet.toNat = character.toNat := by
      rw [isOctet, Utf8.toNat_ofNat_of_lt (by omega)]
    refine ⟨fun same => noQuote ?_, fun same => noBackslash ?_, value ▸ noControl⟩
    · exact Char.toNat_inj.mp (value.symm.trans (congrArg UInt8.toNat same))
    · exact Char.toNat_inj.mp (value.symm.trans (congrArg UInt8.toNat same))
  · have high := Utf8.le_of_mem_encodeChar notAscii isMember
    refine ⟨?_, ?_, by omega⟩
    · rintro rfl
      exact absurd high (by decide)
    · rintro rfl
      exact absurd high (by decide)

/-- A control is read back from its escape. -/
theorem scan_of_control {character : Char} (control : character.toNat < 0x20) :
    scan (.string (.plain reversed)) tokens (Utf8.encode (escapeChar character) ++ rest) =
      scan (.string (.plain ((Utf8.encodeChar character).reverse ++ reversed))) tokens rest := by
  rw [← Char.ofNat_toNat character]
  generalize character.toNat = code at control
  interval_cases code <;> rfl

/-- Each character is read back from what is written for it. -/
theorem scan_escapeChar (character : Char) :
    scan (.string (.plain reversed)) tokens (Utf8.encode (escapeChar character) ++ rest) =
      scan (.string (.plain ((Utf8.encodeChar character).reverse ++ reversed))) tokens rest := by
  by_cases isQuote : character = '"'
  · subst isQuote
    rfl
  by_cases isBackslash : character = '\\'
  · subst isBackslash
    rfl
  rcases Nat.lt_or_ge character.toNat 0x20 with control | noControl
  · exact scan_of_control control
  · rw [escapeChar_of_plain isQuote isBackslash noControl, Utf8.encode_singleton]
    exact scan_of_plain (isPlain_of_mem_encodeChar isQuote isBackslash noControl)

/-- Escaped characters are read back as the octets of what they stand for. -/
theorem scan_escapes (characters : List Char) :
    scan (.string (.plain reversed)) tokens
        (Utf8.encode (characters.flatMap escapeChar) ++ rest) =
      scan (.string (.plain ((Utf8.encode characters).reverse ++ reversed))) tokens rest := by
  induction characters generalizing reversed with
  | nil => rfl
  | cons character characters inductionHypothesis =>
    rw [List.flatMap_cons, Utf8.encode_append, List.append_assoc, scan_escapeChar,
      inductionHypothesis, ← List.singleton_append, Utf8.encode_append, Utf8.encode_singleton,
      List.reverse_append, List.append_assoc]

/-- The octets of joined texts are those of the one and then those of the other. -/
theorem ofString_append (left right : String) :
    Utf8.ofString (left ++ right) = Utf8.ofString left ++ Utf8.ofString right := by
  rw [Utf8.ofString, String.toList_append, Utf8.encode_append]
  rfl

/-- A mark between two tokens is a token of its own. -/
theorem scan_mark {mark : String} {octet : UInt8} {token : Token}
    (written : Utf8.ofString mark = [octet]) (begins : begin octet = some (.between, some token)) :
    scan .between tokens (Utf8.ofString mark ++ rest) =
      scan .between (token :: tokens) rest := by
  rw [written, List.singleton_append, scan, step, begins]
  rfl

/-- A text in quotes is read as one token, the text. -/
theorem scan_quote (text : String) :
    scan .between tokens (Utf8.ofString (quote text) ++ rest) =
      scan .between (.string (some text) :: tokens) rest := by
  have octets : Utf8.ofString (quote text) ++ rest =
      octetOf '"' :: (Utf8.encode (text.toList.flatMap escapeChar) ++ octetOf '"' :: rest) := by
    have mark : Utf8.ofString "\"" = [octetOf '"'] := rfl
    have escapes : Utf8.ofString (String.ofList (text.toList.flatMap escapeChar)) =
        Utf8.encode (text.toList.flatMap escapeChar) := by
      rw [Utf8.ofString, String.toList_ofList]
    rw [quote, ofString_append, ofString_append, mark, escapes, List.append_assoc,
      List.append_assoc, List.singleton_append, List.singleton_append]
  have finished : (StringPart.plain (Utf8.encode text.toList).reverse).text? = some text := by
    have read := Utf8.toString?_encode text.toList
    rw [String.ofList_toList] at read
    rw [StringPart.text?, if_neg (fun broken => by cases broken), StringPart.plain,
      List.reverse_reverse, read]
  calc scan .between tokens (Utf8.ofString (quote text) ++ rest)
    _ = scan (.string (.plain [])) tokens
          (Utf8.encode (text.toList.flatMap escapeChar) ++ octetOf '"' :: rest) := by
      rw [octets]
      rfl
    _ = scan (.string (.plain (Utf8.encode text.toList).reverse)) tokens
          (octetOf '"' :: rest) := by
      rw [scan_escapes, List.append_nil]
    _ = scan .between (.string (some text) :: tokens) rest := by
      rw [← finished]
      rfl

/-- The tokens of a member whose value is a text. -/
def ofMember (member : String × String) : List Token :=
  [.string (some member.1), .colon, .string (some member.2)]

end Token

/-- The text of a member whose value is a text. -/
def memberText (member : String × String) : String := quote member.1 ++ ":" ++ quote member.2

/-- The text of further members. -/
def furtherText (members : List (String × String)) : String :=
  String.join (members.map fun member => "," ++ memberText member)

/-- Every further member is written behind a comma. -/
theorem furtherText_cons (member : String × String) (members : List (String × String)) :
    furtherText (member :: members) = "," ++ memberText member ++ furtherText members := by
  rw [furtherText, List.map_cons, String.join_cons]
  rfl

namespace Token

variable {rest : List UInt8} {tokens : List Token}

/-- A written member is read as the tokens of a key with a text. -/
theorem scan_memberText (member : String × String) :
    scan .between tokens (Utf8.ofString (memberText member) ++ rest) =
      scan .between ((ofMember member).reverse ++ tokens) rest := by
  have colon : begin (octetOf ':') = some (.between, some .colon) := rfl
  rw [memberText, ofString_append, ofString_append, List.append_assoc, List.append_assoc,
    scan_quote, scan_mark rfl colon, scan_quote]
  rfl

/-- Further members are read as the tokens of each one behind a comma. -/
theorem scan_furtherText (members : List (String × String)) :
    scan .between tokens (Utf8.ofString (furtherText members) ++ rest) =
      scan .between ((members.flatMap fun member => .comma :: ofMember member).reverse ++ tokens)
        rest := by
  induction members generalizing tokens with
  | nil => rfl
  | cons member members inductionHypothesis =>
    have comma : begin (octetOf ',') = some (.between, some .comma) := rfl
    rw [furtherText_cons, ofString_append, ofString_append, List.append_assoc, List.append_assoc,
      scan_mark rfl comma, scan_memberText, inductionHypothesis, List.flatMap_cons,
      List.reverse_append, List.append_assoc, List.reverse_cons, List.append_assoc,
      List.singleton_append]

/-- An object of texts splits into the tokens of its members. -/
theorem ofOctets?_object (member : String × String) (members : List (String × String)) :
    ofOctets? (Utf8.ofString
        ("\x7b" ++ memberText member ++ furtherText members ++ "\x7d")) =
      some (.openObject :: (ofMember member ++
        (members.flatMap (fun member => .comma :: ofMember member) ++ [.closeObject]))) := by
  have opened : begin (octetOf '\x7b') = some (.between, some .openObject) := rfl
  have closed : begin (octetOf '\x7d') = some (.between, some .closeObject) := rfl
  rw [ofOctets?, ofString_append, ofString_append, ofString_append, List.append_assoc,
    List.append_assoc, scan_mark rfl opened, scan_memberText, scan_furtherText,
    ← List.append_nil (Utf8.ofString "\x7d"), scan_mark rfl closed, scan]
  simp

end Token

namespace Document

/-- The document of a member whose value is a text. -/
def ofTextMember (member : String × String) : Option String × Document :=
  (some member.1, .string (some member.2))

/-- Behind the value of a member, further members are added to it. -/
theorem build_furtherMembers (member : String × String)
    (reversed : List (Option String × Document)) (members : List (String × String)) :
    build (.separator (.string (some member.2))) [.object reversed (some member.1)]
        (members.flatMap (fun member => .comma :: Token.ofMember member) ++ [.closeObject]) =
      some (.object (reversed.reverse ++ (member :: members).map ofTextMember)) := by
  induction members generalizing member reversed with
  | nil =>
    have closed : build (.separator (.string (some member.2))) [.object reversed (some member.1)]
        [.closeObject] = some (.object (ofTextMember member :: reversed).reverse) := rfl
    rw [List.flatMap_nil, List.nil_append, closed, List.reverse_cons]
    rfl
  | cons next members inductionHypothesis =>
    -- A comma, a key, a colon and a text lead to the same place behind the next member.
    have onward (tokens : List Token) :
        build (.separator (.string (some member.2))) [.object reversed (some member.1)]
          (.comma :: Token.ofMember next ++ tokens) =
        build (.separator (.string (some next.2)))
          [.object (ofTextMember member :: reversed) (some next.1)] tokens := rfl
    rw [List.flatMap_cons, List.append_assoc, onward, inductionHypothesis, List.reverse_cons,
      List.append_assoc, List.singleton_append, ← List.map_cons]

/-- An object of texts is read as its members in the order they are written. -/
theorem ofOctets?_object (member : String × String) (members : List (String × String)) :
    ofOctets? (Utf8.ofString
        ("\x7b" ++ memberText member ++ furtherText members ++ "\x7d")) =
      some (.object ((member :: members).map ofTextMember)) := by
  have opened (tokens : List Token) :
      build .value [] (.openObject :: (Token.ofMember member ++ tokens)) =
        build (.separator (.string (some member.2))) [.object [] (some member.1)] tokens := rfl
  rw [ofOctets?, Token.ofOctets?_object, Option.bind_some, opened, build_furtherMembers]
  rfl

/-- Members that hold texts denote the strings of these texts, at every depth. -/
theorem membersWithin_map_ofTextMember (depth : Nat) (members : List (String × String)) :
    membersWithin depth (members.map ofTextMember) =
      some (members.map fun member => (member.1, .string member.2)) := by
  induction members with
  | nil => rfl
  | cons member members inductionHypothesis =>
    rw [List.map_cons, ofTextMember, membersWithin, valueWithin, inductionHypothesis]
    rfl

/-- The value of an object of texts. -/
theorem value?_object (members : List (String × String)) :
    (Document.object (members.map ofTextMember)).value? =
      some (Json.ofMembers (members.map fun member => (member.1, .string member.2))) := by
  rw [value?, valueWithin, if_neg (by decide), membersWithin_map_ofTextMember]
  rfl

end Document

section NoControl

variable {left right : String}

/-- No character of a text is a control below U+0020, so it stands on one line. -/
def NoControl (text : String) : Prop := ∀ character ∈ text.toList, 0x20 ≤ character.toNat

/-- Where two texts have no control character, their join has none. -/
theorem NoControl.append (onLeft : NoControl left) (onRight : NoControl right) :
    NoControl (left ++ right) := by
  rw [NoControl, String.toList_append, List.forall_mem_append]
  exact ⟨onLeft, onRight⟩

/-- A quoted text has no control character, whatever it quotes. -/
theorem noControl_quote (text : String) : NoControl (quote text) := by
  have mark : NoControl "\"" := List.forall_mem_singleton.mpr (by decide)
  have escapes : NoControl (String.ofList (text.toList.flatMap escapeChar)) := by
    rw [NoControl, String.toList_ofList]
    intro written isWritten
    obtain ⟨character, -, isEscape⟩ := List.mem_flatMap.mp isWritten
    exact noControl_escapeChar character written isEscape
  exact (mark.append escapes).append mark

theorem noControl_memberText (member : String × String) : NoControl (memberText member) := by
  have colon : NoControl ":" := List.forall_mem_singleton.mpr (by decide)
  exact ((noControl_quote _).append colon).append (noControl_quote _)

theorem noControl_furtherText (members : List (String × String)) :
    NoControl (furtherText members) := by
  induction members with
  | nil => exact nofun
  | cons member members inductionHypothesis =>
    have comma : NoControl "," := List.forall_mem_singleton.mpr (by decide)
    rw [furtherText_cons]
    exact (comma.append (noControl_memberText member)).append inductionHypothesis

/-- An object of texts stands on one line. -/
theorem noControl_object (member : String × String) (members : List (String × String)) :
    NoControl ("\x7b" ++ memberText member ++ furtherText members ++ "\x7d") := by
  have opened : NoControl "\x7b" := List.forall_mem_singleton.mpr (by decide)
  have closed : NoControl "\x7d" := List.forall_mem_singleton.mpr (by decide)
  exact ((opened.append (noControl_memberText member)).append
    (noControl_furtherText members)).append closed

end NoControl

end Dashboard.Json
