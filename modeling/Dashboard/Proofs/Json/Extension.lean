import Dashboard.Json.Basic

/-!
# Extended values

A value is extended by another that has everything it has and possibly more: an object by
one with at least its keys and extended children, an array by one with at least its strings,
and a scalar by anything.
-/

namespace Dashboard.Json

/-- Neither an object nor an array. -/
def IsScalar (value : Json) : Prop :=
  (∀ members, value ≠ .object members) ∧ ∀ items, value ≠ .array items

/-- A value has at least what another has, at every depth. -/
inductive ExtendedBy : Json → Json → Prop where
  | object {members larger}
      (keys : ∀ key, (lookup key members).isSome → (lookup key larger).isSome)
      (children : ∀ key child other, lookup key members = some child →
        lookup key larger = some other → ExtendedBy child other) :
      ExtendedBy (.object members) (.object larger)
  | array {items larger} (strings : ∀ text, .string text ∈ items → .string text ∈ larger) :
      ExtendedBy (.array items) (.array larger)
  | scalar {value larger} (isScalar : value.IsScalar) : ExtendedBy value larger

namespace ExtendedBy

variable {value larger child : Json} {key : String}

/-- A child that a value has under a key is extended by the one of the larger value. -/
theorem get? (extended : value.ExtendedBy larger) (found : value.get? key = some child) :
    ∃ other, larger.get? key = some other ∧ child.ExtendedBy other := by
  cases extended with
  | object keys children =>
    have isPresent : (lookup key _).isSome := Option.isSome_of_eq_some found
    obtain ⟨other, isOther⟩ := Option.isSome_iff_exists.mp (keys key isPresent)
    exact ⟨other, isOther, children key child other found isOther⟩
  | array strings => cases found
  | scalar isScalar =>
    cases value with
    | object members => exact absurd rfl (isScalar.1 members)
    | null | bool _ | number _ | string _ | array _ => cases found

end ExtendedBy

/-- A child is smaller than the members that it is found among. -/
theorem sizeOf_lt_of_lookup {key : String} {child : Json} {members : List (String × Json)}
    (found : lookup key members = some child) : sizeOf child < sizeOf members := by
  induction members with
  | nil => cases found
  | cons member rest inductionHypothesis =>
    obtain ⟨memberKey, memberValue⟩ := member
    unfold lookup at found
    split at found
    · cases found
      simp only [List.cons.sizeOf_spec, Prod.mk.sizeOf_spec]
      omega
    · have smaller := inductionHypothesis found
      simp only [List.cons.sizeOf_spec]
      omega

/-- Every value is extended by itself. -/
theorem ExtendedBy.refl : (value : Json) → value.ExtendedBy value
  | .object members => by
    refine .object (fun _ isPresent => isPresent) fun key child other found isOther => ?_
    cases found.symm.trans isOther
    have smaller := sizeOf_lt_of_lookup found
    exact refl child
  | .array _ => .array fun _ isMember => isMember
  | .null | .bool _ | .number _ | .string _ => .scalar (by simp [IsScalar])
termination_by value => sizeOf value

end Dashboard.Json
