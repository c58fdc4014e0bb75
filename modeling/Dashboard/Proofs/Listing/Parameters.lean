import Dashboard.Listing.Request
import Dashboard.Proofs.Listing.Store
import Dashboard.Proofs.Text.Decimal
import Dashboard.Proofs.Text.Trim

/-!
# Query parameters of list requests

Which parameters a list request is read from, and what it takes from them. A count is a decimal
numeral of 64 bits between blanks, a flag one of four words; what is missing has a value of its
own, and the length of the page keeps the limits in either case. A request that is written out as
parameters is read back from them, in whatever order they come.
-/

namespace Dashboard.Listing

/-- The count that a text denotes: a decimal numeral between blanks, perhaps behind a plus sign,
of a number of 64 bits. -/
inductive CountText (text : String) : Nat → Prop where
  | numeral {before sign digits after}
      (blanksBefore : ∀ character ∈ before, Text.isBlank character = true)
      (blanksAfter : ∀ character ∈ after, Text.isBlank character = true)
      (isSign : sign = [] ∨ sign = ['+']) (isNumeral : Text.IsNumeral digits)
      (written : text.toList = before ++ (sign ++ digits) ++ after)
      (fits : Nat.ofDigitChars 10 digits 0 < 2 ^ 64) :
      CountText text (Nat.ofDigitChars 10 digits 0)

/-- The flag that a text denotes, in any case and between blanks. -/
inductive FlagText (text : String) : Bool → Prop where
  | yes (word : Text.lowercase (Text.trim text) ∈ ["true", "1"]) : FlagText text true
  | no (word : Text.lowercase (Text.trim text) ∈ ["false", "0"]) : FlagText text false

/-- The value of a parameter: what its text denotes, or a value of its own when it is missing. -/
inductive ParameterIs {α : Type} (parameters : List (String × String)) (name : String)
    (missing : α) (Denotes : String → α → Prop) : α → Prop where
  | missing (notGiven : ListRequest.parameter? parameters name = none) :
      ParameterIs parameters name missing Denotes missing
  | given {text value} (isGiven : ListRequest.parameter? parameters name = some text)
      (denotes : Denotes text value) : ParameterIs parameters name missing Denotes value

namespace ListRequest

/-- A request is what some parameters ask for, within limits. -/
structure AskedBy (request : ListRequest) (parameters : List (String × String))
    (limits : PageLimits) : Prop where
  pageStart : ParameterIs parameters "pageStart" 0 CountText request.pageStart
  pageLength :
    ParameterIs parameters "pageLength" limits.defaultPageLength CountText request.pageLength
  positive : 1 ≤ request.pageLength
  limited : request.pageLength ≤ limits.maxPageLength
  descending : ParameterIs parameters "reverseSort" true FlagText request.descending
  sortField : request.sortField = (parameter? parameters "sortIndex").getD "-1"
  searchTerm : request.searchTerm = (parameter? parameters "searchTerm").getD ""

/-- Parameters from which a request can be read: each of the counts and the flag denotes something
or is missing, and the length of the page keeps the limits. -/
structure CanBeRead (parameters : List (String × String)) (limits : PageLimits) : Prop where
  pageStart : ∃ count, ParameterIs parameters "pageStart" 0 CountText count
  pageLength : ∃ count,
    ParameterIs parameters "pageLength" limits.defaultPageLength CountText count ∧
      1 ≤ count ∧ count ≤ limits.maxPageLength
  descending : ∃ flag, ParameterIs parameters "reverseSort" true FlagText flag

/-- A request within limits, with counts of 64 bits. -/
structure Within (request : ListRequest) (limits : PageLimits) : Prop where
  pageStart : request.pageStart < 2 ^ 64
  pageLength : request.pageLength < 2 ^ 64
  positive : 1 ≤ request.pageLength
  limited : request.pageLength ≤ limits.maxPageLength

/-- A request written out as parameters. -/
def toParameters (request : ListRequest) : List (String × String) :=
  [("pageStart", toString request.pageStart), ("pageLength", toString request.pageLength),
    ("sortIndex", request.sortField),
    ("reverseSort", if request.descending then "true" else "false"),
    ("searchTerm", request.searchTerm)]

section Counts

variable {name text : String} {count : Nat} {flag : Bool}

theorem isBlank_of_isDigit {character : Char} (digit : character.isDigit = true) :
    Text.isBlank character = false := by
  have bounds : 48 ≤ character.toNat ∧ character.toNat ≤ 57 := by
    simpa [Char.isDigit, UInt32.le_iff_toNat_le] using digit
  simp [Text.isBlank]
  omega

/-- A numeral has no blanks at its ends, with a plus sign or without one. -/
theorem trimmed_numeral {sign digits : List Char} (isSign : sign = [] ∨ sign = ['+'])
    (isNumeral : Text.IsNumeral digits) : Text.Trimmed (sign ++ digits) := by
  obtain ⟨notEmpty, areDigits⟩ := isNumeral
  have noBlank : ∀ character ∈ sign ++ digits, Text.isBlank character = false := by
    intro character isMember
    rcases List.mem_append.mp isMember with inSign | inDigits
    · rcases isSign with rfl | rfl
      · cases inSign
      · cases List.mem_singleton.mp inSign
        rfl
    · exact isBlank_of_isDigit (areDigits character inDigits)
  exact ⟨fun character isHead => noBlank character (List.mem_of_mem_head? isHead),
    fun character isLast => noBlank character (List.mem_of_mem_getLast? isLast)⟩

/-- What is read from a text whose trimmed form is a sign and the rest of it. -/
theorem parseCount_of_trim {sign digits : List Char} (isSign : sign = [] ∨ sign = ['+'])
    (trims : Text.trimChars text.toList = sign ++ digits)
    (noSecondSign : sign = [] → digits.head? ≠ some '+') :
    parseCount name text =
      match Text.natOfDigits? digits with
      | some count =>
        if count ≤ maxCount then .ok count
        else .error (.invalidRequest ("Invalid " ++ name ++ ": " ++ text))
      | none => .error (.invalidRequest ("Invalid " ++ name ++ ": " ++ text)) := by
  unfold parseCount
  rw [trims]
  rcases isSign with rfl | rfl
  · rw [List.nil_append]
    split
    next => exact absurd rfl (noSecondSign rfl)
    next => rfl
  · rfl

/-- Between blanks and behind one sign, a numeral of 64 bits is read, and nothing else. -/
theorem parseCount_eq_ok_iff_of_trim {sign digits : List Char}
    (isSign : sign = [] ∨ sign = ['+']) (trims : Text.trimChars text.toList = sign ++ digits)
    (noSecondSign : sign = [] → digits.head? ≠ some '+') :
    parseCount name text = .ok count ↔
      Text.IsNumeral digits ∧ count = Nat.ofDigitChars 10 digits 0 ∧ count < 2 ^ 64 := by
  have limit : ∀ number, number ≤ maxCount ↔ number < 2 ^ 64 := fun number => by
    rw [maxCount]
    omega
  rw [parseCount_of_trim isSign trims noSecondSign]
  cases isRead : Text.natOfDigits? digits with
  | none =>
    have noNumeral : ¬ Text.IsNumeral digits := by
      intro numeral
      rw [Text.natOfDigits?_eq_some_iff.mpr ⟨numeral, rfl⟩] at isRead
      cases isRead
    simp [noNumeral]
  | some number =>
    obtain ⟨numeral, rfl⟩ := Text.natOfDigits?_eq_some_iff.mp isRead
    simp only [limit]
    split
    next fits =>
      rw [Except.ok.injEq, and_iff_right numeral]
      exact ⟨fun same => ⟨same.symm, same ▸ fits⟩, fun ⟨same, _⟩ => same.symm⟩
    next tooLarge =>
      simp only [reduceCtorEq, false_iff, not_and]
      rintro _ rfl
      exact tooLarge

/-- The texts that are read as a count. -/
theorem parseCount_eq_ok_iff : parseCount name text = .ok count ↔ CountText text count := by
  constructor
  · intro read
    obtain ⟨before, after, blanksBefore, blanksAfter, written⟩ :=
      Text.exists_blanks_around text.toList
    by_cases signed : (Text.trimChars text.toList).head? = some '+'
    · obtain ⟨digits, trims⟩ := List.head?_eq_some_iff.mp signed
      obtain ⟨numeral, rfl, fits⟩ :=
        (parseCount_eq_ok_iff_of_trim (.inr rfl) trims (by simp)).mp read
      exact .numeral blanksBefore blanksAfter (.inr rfl) numeral
        (written.trans (by rw [trims, List.singleton_append])) fits
    · obtain ⟨numeral, rfl, fits⟩ :=
        (parseCount_eq_ok_iff_of_trim (.inl rfl) rfl fun _ => signed).mp read
      exact .numeral blanksBefore blanksAfter (.inl rfl) numeral written fits
  · intro denotes
    cases denotes with
    | numeral blanksBefore blanksAfter isSign isNumeral written fits =>
      have trims := congrArg Text.trimChars written
      rw [Text.trimChars_of_blanks_around (trimmed_numeral isSign isNumeral) blanksBefore
        blanksAfter] at trims
      refine (parseCount_eq_ok_iff_of_trim isSign trims fun _ signed => ?_).mpr
        ⟨isNumeral, rfl, fits⟩
      have digit := isNumeral.2 '+' (List.mem_of_mem_head? signed)
      cases digit

/-- The texts that are read as a flag. -/
theorem parseFlag_eq_ok_iff : parseFlag name text = .ok flag ↔ FlagText text flag := by
  constructor
  · intro read
    unfold parseFlag at read
    split at read
    next word => cases read; exact .yes (by simp [word])
    next word => cases read; exact .yes (by simp [word])
    next word => cases read; exact .no (by simp [word])
    next word => cases read; exact .no (by simp [word])
    next => cases read
  · intro denotes
    cases denotes with
    | yes word => rcases List.mem_pair.mp word with word | word <;> rw [parseFlag, word] <;> rfl
    | no word => rcases List.mem_pair.mp word with word | word <;> rw [parseFlag, word] <;> rfl

end Counts

section Requests

variable {α : Type} {parameters : List (String × String)} {name : String} {limits : PageLimits}
  {request : ListRequest}

/-- A parameter is read exactly when its text denotes something or it is missing. -/
theorem readParameter_eq_ok_iff {missing value : α} {parse : String → String → Except ListError α}
    {Denotes : String → α → Prop}
    (reads : ∀ {text value}, parse name text = .ok value ↔ Denotes text value) :
    readParameter parameters name missing parse = .ok value ↔
      ParameterIs parameters name missing Denotes value := by
  rw [readParameter]
  cases isGiven : parameter? parameters name with
  | none =>
    constructor
    · rintro ⟨⟩
      exact .missing isGiven
    · rintro (_ | ⟨given, _⟩)
      · rfl
      · rw [isGiven] at given
        cases given
  | some text =>
    constructor
    · exact fun read => .given isGiven (reads.mp read)
    · rintro (notGiven | ⟨given, denotes⟩)
      · rw [isGiven] at notGiven
        cases notGiven
      · cases isGiven.symm.trans given
        exact reads.mpr denotes

/-- The parameters from which a request is read. -/
theorem ofParameters_eq_ok_iff :
    ofParameters parameters limits = .ok request ↔ request.AskedBy parameters limits := by
  simp only [ofParameters, bind_eq_ok_iff, readParameter_eq_ok_iff parseCount_eq_ok_iff]
  constructor
  · rintro ⟨pageStart, asksStart, pageLength, asksLength, rest⟩
    split at rest
    · cases rest
    split at rest
    · cases rest
    rename_i positive limited
    obtain ⟨descending, asksOrder, rest⟩ := bind_eq_ok_iff.mp rest
    cases rest
    exact
      { pageStart := asksStart
        pageLength := asksLength
        positive := Nat.one_le_iff_ne_zero.mpr positive
        limited := Nat.not_lt.mp limited
        descending := (readParameter_eq_ok_iff parseFlag_eq_ok_iff).mp asksOrder
        sortField := rfl
        searchTerm := rfl }
  · intro asked
    refine ⟨_, asked.pageStart, _, asked.pageLength, ?_⟩
    rw [if_neg (Nat.one_le_iff_ne_zero.mp asked.positive), if_neg (Nat.not_lt.mpr asked.limited),
      bind_eq_ok_iff]
    refine ⟨_, (readParameter_eq_ok_iff parseFlag_eq_ok_iff).mpr asked.descending, ?_⟩
    cases request
    cases asked.sortField
    cases asked.searchTerm
    rfl

/-- Parameters ask for some request exactly when they can be read. -/
theorem exists_ofParameters_iff :
    (∃ request, ofParameters parameters limits = .ok request) ↔ CanBeRead parameters limits := by
  simp only [ofParameters_eq_ok_iff]
  constructor
  · rintro ⟨request, asked⟩
    exact ⟨⟨_, asked.pageStart⟩, ⟨_, asked.pageLength, asked.positive, asked.limited⟩,
      ⟨_, asked.descending⟩⟩
  · rintro ⟨⟨_, pageStart⟩, ⟨_, pageLength, positive, limited⟩, ⟨_, descending⟩⟩
    exact ⟨⟨_, _, _, _, _⟩, pageStart, pageLength, positive, limited, descending, rfl, rfl⟩

/-- Without a length of its own a request is read whenever its other parameters are, as long as
the length that stands for a missing one is itself within the limits. -/
theorem exists_ofParameters_of_noLength (notGiven : parameter? parameters "pageLength" = none)
    (positive : 1 ≤ limits.defaultPageLength)
    (limited : limits.defaultPageLength ≤ limits.maxPageLength) :
    (∃ request, ofParameters parameters limits = .ok request) ↔
      (∃ count, ParameterIs parameters "pageStart" 0 CountText count) ∧
        ∃ flag, ParameterIs parameters "reverseSort" true FlagText flag := by
  rw [exists_ofParameters_iff]
  constructor
  · exact fun readable => ⟨readable.pageStart, readable.descending⟩
  · rintro ⟨pageStart, descending⟩
    exact ⟨pageStart, ⟨_, .missing notGiven, positive, limited⟩, descending⟩

/-- Among parameters of different names, the value of a name is the one that stands with it. -/
theorem parameter?_eq_some_of_mem {text : String} (distinct : (parameters.map Prod.fst).Nodup)
    (isMember : (name, text) ∈ parameters) : parameter? parameters name = some text := by
  induction parameters with
  | nil => cases isMember
  | cons parameter rest inductionHypothesis =>
    rw [List.map_cons, List.nodup_cons] at distinct
    rw [parameter?, List.find?_cons]
    rcases List.mem_cons.mp isMember with rfl | behind
    · simp
    · have differ : parameter.1 ≠ name := fun same =>
        distinct.1 (same ▸ List.mem_map_of_mem (f := Prod.fst) behind)
      rw [beq_eq_false_iff_ne.mpr differ]
      exact inductionHypothesis distinct.2 behind

/-- The decimal digits of a number of 64 bits denote it. -/
theorem countText_toString {number : Nat} (fits : number < 2 ^ 64) :
    CountText (toString number) number := by
  have value := Text.ofDigitChars_toString number
  have denotes : CountText (toString number) (Nat.ofDigitChars 10 (toString number).toList 0) :=
    @CountText.numeral _ [] [] _ [] nofun nofun (.inl rfl) (Text.isNumeral_toString number)
      (by simp) (by rwa [value])
  rwa [value] at denotes

/-- Both words of a flag denote it. -/
theorem flagText_word (flag : Bool) : FlagText (if flag then "true" else "false") flag := by
  cases flag with
  | true => exact .yes (by decide +kernel)
  | false => exact .no (by decide +kernel)

/-- A request within limits is read back from its parameters in any order. -/
theorem ofParameters_of_perm (within : request.Within limits)
    (written : parameters.Perm request.toParameters) :
    ofParameters parameters limits = .ok request := by
  have distinct : (parameters.map Prod.fst).Nodup := by
    rw [(written.map Prod.fst).nodup_iff]
    exact (by decide : ["pageStart", "pageLength", "sortIndex", "reverseSort", "searchTerm"].Nodup)
  have given : ∀ {name text}, (name, text) ∈ request.toParameters →
      parameter? parameters name = some text :=
    fun isMember => parameter?_eq_some_of_mem distinct (written.mem_iff.mpr isMember)
  rw [ofParameters_eq_ok_iff]
  exact
    { pageStart := .given (given (by simp [toParameters])) (countText_toString within.pageStart)
      pageLength := .given (given (by simp [toParameters])) (countText_toString within.pageLength)
      positive := within.positive
      limited := within.limited
      descending := .given (given (by simp [toParameters])) (flagText_word _)
      sortField := by rw [given (.tail _ (.tail _ (.head _)))]; rfl
      searchTerm := by rw [given (.tail _ (.tail _ (.tail _ (.tail _ (.head _)))))]; rfl }

end Requests

end ListRequest

end Dashboard.Listing
