import Dashboard.Listing.Order

/-!
# The order of records is lawful

Values compare as a few keys of theirs do, one key after the other: first the kind, and then
what each kind is ordered by. So the comparison is a total preorder on all values, the missing
one among them, and sorting by it gives the records back in order, those that compare equal
as they stood.
-/

namespace Dashboard.Listing

section Comparison

variable {left right : Option Json}

/-- The size of a truth value or a number; other values have none. -/
def sizeKey : Option Json → Int
  | some (.bool truth) => truth.toNat
  | some (.number number) => number.toDouble.units
  | _ => 0

/-- The text of a string; other values have none. -/
def textKey : Option Json → String
  | some (.string text) => text
  | _ => ""

/-- Values of different kinds compare as their kinds do. -/
theorem compareValues_of_kindRank_ne (differ : kindRank left ≠ kindRank right) :
    compareValues left right = compare (kindRank left) (kindRank right) := by
  unfold compareValues
  split
  case h_4 => rfl
  all_goals exact absurd rfl differ

/-- Values of one kind compare by their sizes and their texts, of which a kind has one at most. -/
theorem compareValues_of_kindRank_eq (same : kindRank left = kindRank right) :
    compareValues left right =
      (compare (sizeKey left) (sizeKey right)).then (compare (textKey left) (textKey right)) := by
  rcases left with _ | _ | left | left | left | _ | _ <;>
    rcases right with _ | _ | right | right | right | _ | _ <;> cases same
  case none.none => rfl
  case some.null.some.null => rfl
  case some.bool.some.bool => cases left <;> cases right <;> rfl
  case some.number.some.number => simp [compareValues, sizeKey, textKey, Double.compare]
  case some.string.some.string =>
    simp only [compareValues, sizeKey, textKey, Std.ReflCmp.compare_self, Ordering.then]
    rfl
  case some.array.some.array => rfl
  case some.object.some.object => rfl

/-- Values compare by their kinds, then their sizes and last their texts. -/
theorem compareValues_eq_compareLex :
    compareValues =
      compareLex (compareOn kindRank) (compareLex (compareOn sizeKey) (compareOn textKey)) := by
  funext left right
  simp only [compareLex, compareOn]
  by_cases same : kindRank left = kindRank right
  · simp only [compareValues_of_kindRank_eq same, same, Std.ReflCmp.compare_self, Ordering.then]
  · rw [compareValues_of_kindRank_ne same]
    have decided : compare (kindRank left) (kindRank right) ≠ .eq := by simpa using same
    cases compared : compare (kindRank left) (kindRank right) with
    | eq => exact absurd compared decided
    | lt | gt => rfl

instance : Std.TransCmp compareValues :=
  compareValues_eq_compareLex ▸ inferInstance

end Comparison

namespace SortOrder

variable {order : SortOrder} {earlier later : Json}

/-- The order allows a record before another: not the greater one first when it ascends, and not
the lesser one first when it descends. -/
def Allows (order : SortOrder) (earlier later : Json) : Prop :=
  match order.direction with
  | .ascending => compareValues (earlier.get? order.field) (later.get? order.field) ≠ .gt
  | .descending => compareValues (earlier.get? order.field) (later.get? order.field) ≠ .lt

/-- The field of a record compares equal with a value. -/
def ties (order : SortOrder) (value : Option Json) (record : Json) : Bool :=
  compareValues value (record.get? order.field) == .eq

instance (order : SortOrder) : Std.TransCmp order.compareRecords where
  eq_swap {left right} := by
    have swapped : compareValues (left.get? order.field) (right.get? order.field) =
        (compareValues (right.get? order.field) (left.get? order.field)).swap :=
      Std.OrientedCmp.eq_swap
    unfold compareRecords
    cases order.direction <;> simp [swapped]
  isLE_trans {first second third} := by
    unfold compareRecords
    cases order.direction with
    | ascending =>
      dsimp only
      exact Std.TransCmp.isLE_trans
    | descending =>
      simp only [Ordering.isLE_swap]
      exact Std.TransCmp.isGE_trans

/-- What an order allows is what the comparison of the sort does not forbid. -/
theorem allows_iff : order.Allows earlier later ↔
    (order.compareRecords earlier later != .gt) = true := by
  unfold Allows compareRecords
  cases order.direction <;>
    cases compareValues (earlier.get? order.field) (later.get? order.field) <;> decide

instance : Decidable (order.Allows earlier later) := decidable_of_iff _ allows_iff.symm

/-- Records that tie with one value may stand in either order. -/
theorem allows_of_ties {value : Option Json} (first : order.ties value earlier = true)
    (second : order.ties value later = true) : order.Allows earlier later := by
  have left : compareValues value (earlier.get? order.field) = .eq := by simpa [ties] using first
  have back : compareValues (earlier.get? order.field) value = .eq := Std.OrientedCmp.eq_symm left
  have right : compareValues value (later.get? order.field) = .eq := by simpa [ties] using second
  have equal : compareValues (earlier.get? order.field) (later.get? order.field) = .eq :=
    Std.TransCmp.eq_trans back right
  unfold Allows
  cases order.direction <;> simp [equal]

theorem bne_gt (ordering : Ordering) : (ordering != .gt) = ordering.isLE := by
  cases ordering <;> rfl

/-- The test by which records are sorted is transitive. -/
theorem sort_trans (first second third : Json)
    (before : (order.compareRecords first second != .gt) = true)
    (after : (order.compareRecords second third != .gt) = true) :
    (order.compareRecords first third != .gt) = true := by
  rw [bne_gt] at before after ⊢
  exact Std.TransCmp.isLE_trans before after

/-- The test by which records are sorted holds one way round at least. -/
theorem sort_total (first second : Json) :
    (order.compareRecords first second != .gt || order.compareRecords second first != .gt) =
      true := by
  have swapped : order.compareRecords second first = (order.compareRecords first second).swap :=
    Std.OrientedCmp.eq_swap
  rw [swapped]
  cases order.compareRecords first second <;> decide

theorem pairwise_sort (order : SortOrder) (records : List Json) :
    (order.sort records).Pairwise order.Allows :=
  (List.pairwise_mergeSort sort_trans sort_total records).imp allows_iff.mpr

/-- Records in order stay as they stand. -/
theorem sort_of_pairwise {records : List Json} (inOrder : records.Pairwise order.Allows) :
    order.sort records = records :=
  List.mergeSort_of_pairwise (inOrder.imp allows_iff.mp)

/-- Some records that the order allows each before the other stay as they stand. -/
theorem filter_sort (order : SortOrder) (records : List Json) (keep : Json → Bool)
    (free : ∀ earlier later, keep earlier = true → keep later = true →
      order.Allows earlier later) :
    (order.sort records).filter keep = records.filter keep := by
  have inOrder : (records.filter keep).Pairwise
      fun earlier later => (order.compareRecords earlier later != .gt) = true := by
    rw [List.pairwise_iff_forall_sublist]
    intro earlier later isPair
    have kept : ∀ record ∈ [earlier, later], keep record = true :=
      fun record isPart => (List.mem_filter.mp (isPair.subset isPart)).2
    exact allows_iff.mp (free _ _ (kept earlier (by simp)) (kept later (by simp)))
  have inSorted : (records.filter keep).Sublist (order.sort records) :=
    List.sublist_mergeSort sort_trans sort_total inOrder List.filter_sublist
  have inKept : (records.filter keep).Sublist ((order.sort records).filter keep) := by
    simpa using inSorted.filter keep
  have sameLength : (records.filter keep).length = ((order.sort records).filter keep).length :=
    ((List.mergeSort_perm records _).filter keep).length_eq.symm
  exact (inKept.eq_of_length sameLength).symm

end SortOrder

/-- The comparison of values is a total preorder that ranks the kinds, a missing value lowest and
objects highest. Sorting by a field gives the records back, in the order of the field's values
in the direction asked for, and records whose values compare equal stay as they stand. -/
theorem sort_is_stable_in_total_preorder :
    (∀ left right, compareValues right left = (compareValues left right).swap) ∧
    (∀ left right, compareValues left right ≠ .gt ∨ compareValues right left ≠ .gt) ∧
    (∀ first second third, compareValues first second ≠ .gt →
      compareValues second third ≠ .gt → compareValues first third ≠ .gt) ∧
    (∀ truth number text items members,
      [none, some .null, some (.bool truth), some (.number number), some (.string text),
        some (.array items), some (.object members)].Pairwise
          fun lower higher => compareValues lower higher = .lt) ∧
    ∀ (order : SortOrder) (records : List Json),
      (order.sort records).Perm records ∧
      (order.sort records).Pairwise order.Allows ∧
      ∀ value, (order.sort records).filter (order.ties value) =
        records.filter (order.ties value) := by
  refine ⟨fun _ _ => Std.OrientedCmp.eq_swap, fun left right => ?_, fun first second third => ?_,
    ?_, fun order records => ⟨List.mergeSort_perm _ _, order.pairwise_sort records,
      fun value => order.filter_sort records _ fun _ _ => SortOrder.allows_of_ties⟩⟩
  · have swapped : compareValues right left = (compareValues left right).swap :=
      Std.OrientedCmp.eq_swap
    rw [swapped]
    cases compareValues left right <;> decide
  · simp only [← Ordering.isLE_iff_ne_gt, ne_eq]
    exact Std.TransCmp.isLE_trans
  · intro truth number text items members
    simp [compareValues, kindRank, Nat.compare_eq_lt]

/-- The integer and the fraction one compare equal and stay as they stand when texts come before
numbers and a record without the field comes last. -/
theorem sort_is_stable_among_mixed_records :
    let order : SortOrder := ⟨"n", .descending⟩
    let integer : Json := .object [("n", .number (.int 1))]
    let fraction : Json := .object [("n", .number (.double ⟨false, 4503599627370496, -52⟩))]
    let records : List Json := [.string "n", integer, .object [("n", .string "")], fraction]
    ((order.sort records).Pairwise order.Allows ∧
      (order.sort records).filter (order.ties (some (.number (.int 1)))) = [integer, fraction]) ∧
    compareValues none (some (.bool true)) ≠ .gt ∧
    compareValues (some (.bool true)) (some (.number (.int 0))) ≠ .gt ∧
    compareValues none (some (.number (.int 0))) ≠ .gt := by
  intro order integer fraction records
  obtain ⟨-, -, transitive, -, sorts⟩ := sort_is_stable_in_total_preorder
  obtain ⟨-, inOrder, stable⟩ := sorts order records
  have missing : compareValues none (some (.bool true)) ≠ .gt := by decide
  have mixed : compareValues (some (.bool true)) (some (.number (.int 0))) ≠ .gt := by decide
  refine ⟨⟨inOrder, ?_⟩, missing, mixed, transitive _ _ _ missing mixed⟩
  rw [stable]
  decide +kernel

end Dashboard.Listing
