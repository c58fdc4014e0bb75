import Dashboard.Proofs.Listing.Search
import Dashboard.Proofs.Number.Rounding

/-!
# Sorting by integers

Records whose field holds integers of 64 bits are sorted by the rounded integers, and two of
these merge when they round to the same number. The integers themselves are in order behind that
exactly when no two of them that merge stood the wrong way round before.
-/

namespace Dashboard

open Double (IsWord Merge Near roundInt roundInt_mono)

/-- The integer that a member of a record holds; zero when it holds none. -/
def Json.integerOf (name : String) (record : Json) : Int :=
  match record.get? name with
  | some (.number (.int value)) => value
  | _ => 0

/-- A member of a record holds an integer of 64 bits. -/
structure Json.HoldsWord (name : String) (record : Json) : Prop where
  holds : record.get? name = some (.number (.int (record.integerOf name)))
  isWord : IsWord (record.integerOf name)

instance (name : String) (record : Json) : Decidable (record.HoldsWord name) :=
  decidable_of_iff (record.get? name = some (.number (.int (record.integerOf name))) ∧
      IsWord (record.integerOf name))
    ⟨fun ⟨holds, isWord⟩ => ⟨holds, isWord⟩, fun holdsWord => ⟨holdsWord.holds, holdsWord.isWord⟩⟩

namespace Listing

/-- Two integers are in order in a direction. -/
def Direction.InOrder : Direction → Int → Int → Prop
  | ascending, earlier, later => earlier ≤ later
  | descending, earlier, later => later ≤ earlier

namespace Direction

variable {direction : Direction} {earlier later : Int}

instance : (direction : Direction) → Decidable (direction.InOrder earlier later)
  | ascending => inferInstanceAs (Decidable (earlier ≤ later))
  | descending => inferInstanceAs (Decidable (later ≤ earlier))

/-- Of two integers one may stand before the other, in either direction. -/
theorem inOrder_or (direction : Direction) (earlier later : Int) :
    direction.InOrder earlier later ∨ direction.InOrder later earlier := by
  cases direction with
  | ascending => exact Int.le_total earlier later
  | descending => exact Int.le_total later earlier

/-- Integers that may stand in either order are equal. -/
theorem InOrder.antisymm (inOrder : direction.InOrder earlier later)
    (inOtherOrder : direction.InOrder later earlier) : earlier = later := by
  cases direction with
  | ascending => exact Int.le_antisymm inOrder inOtherOrder
  | descending => exact Int.le_antisymm inOtherOrder inOrder

/-- Rounding keeps two integers in order. -/
theorem InOrder.round (inOrder : direction.InOrder earlier later) :
    direction.InOrder (roundInt earlier) (roundInt later) := by
  cases direction with
  | ascending | descending => exact roundInt_mono inOrder

/-- Integers are in order where their rounded values are distinct and in order. -/
theorem InOrder.of_round (inOrder : direction.InOrder (roundInt earlier) (roundInt later))
    (differ : roundInt earlier ≠ roundInt later) : direction.InOrder earlier later :=
  (direction.inOrder_or earlier later).resolve_right fun inOtherOrder =>
    differ (inOrder.antisymm inOtherOrder.round)

end Direction

namespace SortOrder

variable {order : SortOrder} {earlier later : Json} {records : List Json}

/-- Two records are in order by the integers of their field. -/
def InOrder (order : SortOrder) (earlier later : Json) : Prop :=
  order.direction.InOrder (earlier.integerOf order.field) (later.integerOf order.field)

/-- The integers of two records merge. -/
def Merges (order : SortOrder) (earlier later : Json) : Prop :=
  Merge (earlier.integerOf order.field) (later.integerOf order.field)

instance : Decidable (order.InOrder earlier later) :=
  inferInstanceAs (Decidable (order.direction.InOrder _ _))

instance : Decidable (order.Merges earlier later) := inferInstanceAs (Decidable (Merge _ _))

/-- The order of records is that of the rounded integers of their field. -/
theorem allows_iff_inOrder_round (holdsEarlier : earlier.HoldsWord order.field)
    (holdsLater : later.HoldsWord order.field) :
    order.Allows earlier later ↔
      order.direction.InOrder (roundInt (earlier.integerOf order.field))
        (roundInt (later.integerOf order.field)) := by
  unfold Allows Direction.InOrder
  rw [holdsEarlier.holds, holdsLater.holds]
  cases order.direction <;>
    simp only [compareValues, JsonNumber.toDouble, Double.compare, ne_eq, Int.compare_eq_gt,
      Int.compare_eq_lt, Int.not_lt]
  · exact Double.units_ofInt_le_iff holdsEarlier.isWord holdsLater.isWord
  · exact Double.units_ofInt_le_iff holdsLater.isWord holdsEarlier.isWord

/-- Where two integers do not merge, the order of the records is that of the integers. -/
theorem inOrder_of_allows (holdsEarlier : earlier.HoldsWord order.field)
    (holdsLater : later.HoldsWord order.field) (allowed : order.Allows earlier later)
    (differ : ¬ order.Merges earlier later) : order.InOrder earlier later :=
  ((allows_iff_inOrder_round holdsEarlier holdsLater).mp allowed).of_round
    ((Double.merge_iff holdsEarlier.isWord holdsLater.isWord).not.mp differ)

/-- Records whose integers merge may stand in either order. -/
theorem Merges.allows (merged : order.Merges earlier later)
    (holdsEarlier : earlier.HoldsWord order.field) (holdsLater : later.HoldsWord order.field) :
    order.Allows earlier later := by
  rw [allows_iff_inOrder_round holdsEarlier holdsLater,
    (Double.merge_iff holdsEarlier.isWord holdsLater.isWord).mp merged]
  exact (order.direction.inOrder_or _ _).elim id id

/-- Sorted records are in the order of their integers, but for those that are near each other. -/
theorem inOrder_or_near (holdsEarlier : earlier.HoldsWord order.field)
    (holdsLater : later.HoldsWord order.field) (allowed : order.Allows earlier later) :
    order.InOrder earlier later ∨
      Near (earlier.integerOf order.field) (later.integerOf order.field) := by
  by_cases merged : order.Merges earlier later
  · by_cases same : earlier.integerOf order.field = later.integerOf order.field
    · left
      rw [InOrder, same]
      exact (order.direction.inOrder_or _ _).elim id id
    · exact .inr (Double.Merge.near merged holdsEarlier.isWord holdsLater.isWord same)
  · exact .inl (inOrder_of_allows holdsEarlier holdsLater allowed merged)

/-- Sorting loses no record, so all of them still hold integers. -/
theorem sort_holdsWord (holds : ∀ record ∈ records, record.HoldsWord order.field) :
    ∀ record ∈ order.sort records, record.HoldsWord order.field :=
  fun record isSorted => holds record ((List.mergeSort_perm records _).mem_iff.mp isSorted)

/-- Sorted records stand in the order of their integers, but for those near each other. -/
theorem pairwise_inOrder_or_near (holds : ∀ record ∈ records, record.HoldsWord order.field) :
    (order.sort records).Pairwise fun earlier later => order.InOrder earlier later ∨
      Near (earlier.integerOf order.field) (later.integerOf order.field) :=
  (order.pairwise_sort records).imp_of_mem fun isEarlier isLater allowed =>
    inOrder_or_near (sort_holdsWord holds _ isEarlier) (sort_holdsWord holds _ isLater) allowed

/-- Two records that merge stay as they stand. -/
theorem sublist_sort_iff (holdsEarlier : earlier.HoldsWord order.field)
    (holdsLater : later.HoldsWord order.field) (merged : order.Merges earlier later) :
    [earlier, later].Sublist (order.sort records) ↔ [earlier, later].Sublist records := by
  have tied : order.ties (earlier.get? order.field) later = true :=
    ties_of_allows (merged.allows holdsEarlier holdsLater)
      (Merges.allows merged.symm holdsLater holdsEarlier)
  have isKept : [earlier, later].filter (order.ties (earlier.get? order.field)) =
      [earlier, later] := by
    rw [List.filter_cons_of_pos (order.ties_self earlier), List.filter_cons_of_pos tied,
      List.filter_nil]
  have sublist_filter_iff (records : List Json) : [earlier, later].Sublist records ↔
      [earlier, later].Sublist (records.filter (order.ties (earlier.get? order.field))) :=
    ⟨fun isPair => isKept ▸ isPair.filter _, fun isPair => isPair.trans List.filter_sublist⟩
  rw [sublist_filter_iff, filter_ties_sort, ← sublist_filter_iff]

/-- Sorted records are in the order of their integers exactly when none that merge stood the
wrong way round. -/
theorem pairwise_inOrder_sort_iff (holds : ∀ record ∈ records, record.HoldsWord order.field) :
    (order.sort records).Pairwise order.InOrder ↔
      records.Pairwise fun earlier later =>
        order.Merges earlier later → order.InOrder earlier later := by
  rw [List.pairwise_iff_forall_sublist, List.pairwise_iff_forall_sublist]
  constructor
  · intro inOrder earlier later isPair merged
    exact inOrder ((sublist_sort_iff (holds _ (isPair.subset (by simp)))
      (holds _ (isPair.subset (by simp))) merged).mpr isPair)
  · intro inOrder earlier later isPair
    have holdsEarlier := sort_holdsWord holds earlier (isPair.subset (by simp))
    have holdsLater := sort_holdsWord holds later (isPair.subset (by simp))
    by_cases merged : order.Merges earlier later
    · exact inOrder ((sublist_sort_iff holdsEarlier holdsLater merged).mp isPair) merged
    · have allowed := List.pairwise_iff_forall_sublist.mp (order.pairwise_sort records) isPair
      exact inOrder_of_allows holdsEarlier holdsLater allowed merged

end SortOrder

end Listing

end Dashboard
