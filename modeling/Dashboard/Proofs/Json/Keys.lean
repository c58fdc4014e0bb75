import Dashboard.Proofs.Json.Members
import Dashboard.Proofs.Text.OctetOrder

/-!
# The keys of an object

An object that is made of members has each of their keys once, in order, and under each key a
value that one of the members has there.
-/

namespace Dashboard.Json

variable {key : String} {value : Json} {members gathered : List (String × Json)}

theorem mem_insertMember {entry : String × Json}
    (isEntry : entry ∈ insertMember key value members) :
    entry = (key, value) ∨ entry ∈ members := by
  induction members with
  | nil => exact .inl (List.mem_singleton.mp isEntry)
  | cons member rest inductionHypothesis =>
    unfold insertMember at isEntry
    split at isEntry
    · exact List.mem_cons.mp isEntry
    · split at isEntry
      · exact (List.mem_cons.mp isEntry).imp_right (.tail _)
      · rcases List.mem_cons.mp isEntry with isFirst | isLater
        · exact .inr (by simp [isFirst])
        · exact (inductionHypothesis isLater).imp_right (.tail _)

theorem mem_keys_insertMember {other : String} :
    other ∈ (insertMember key value members).map Prod.fst ↔
      other = key ∨ other ∈ members.map Prod.fst := by
  induction members with
  | nil => simp [insertMember]
  | cons member rest inductionHypothesis =>
    unfold insertMember
    split
    · simp
    · split
      · rename_i same
        simp [same]
      · rw [List.map_cons, List.mem_cons, inductionHypothesis, List.map_cons, List.mem_cons]
        exact or_left_comm

/-- A member is put where the keys stay in order. -/
theorem sorted_insertMember (sorted : (members.map Prod.fst).Pairwise (· < ·)) :
    ((insertMember key value members).map Prod.fst).Pairwise (· < ·) := by
  induction members with
  | nil => simp [insertMember]
  | cons member rest inductionHypothesis =>
    obtain ⟨below, sortedRest⟩ := List.pairwise_cons.mp sorted
    unfold insertMember
    split
    · rename_i less
      refine List.pairwise_cons.mpr ⟨fun other isOther => ?_, sorted⟩
      rcases List.mem_cons.mp isOther with rfl | isLater
      · exact less
      · exact String.lt_trans less (below other isLater)
    · rename_i notLess
      split
      · rename_i same
        subst same
        exact sorted
      · rename_i differ
        refine List.pairwise_cons.mpr ⟨fun other isOther => ?_, inductionHypothesis sortedRest⟩
        rcases mem_keys_insertMember.mp isOther with rfl | isLater
        · exact Text.lt_of_not_lt_of_ne notLess differ
        · exact below other isLater

theorem mem_gather {entry : String × Json} (isEntry : entry ∈ gather members gathered) :
    entry ∈ members ∨ entry ∈ gathered := by
  induction members generalizing gathered with
  | nil => exact .inr isEntry
  | cons member rest inductionHypothesis =>
    rcases inductionHypothesis isEntry with isLater | isHeld
    · exact .inl (.tail _ isLater)
    · exact (mem_insertMember isHeld).imp_left fun isFirst => by simp [isFirst]

theorem mem_keys_gather {other : String} :
    other ∈ (gather members gathered).map Prod.fst ↔
      other ∈ members.map Prod.fst ∨ other ∈ gathered.map Prod.fst := by
  induction members generalizing gathered with
  | nil => simp [gather]
  | cons member rest inductionHypothesis =>
    rw [gather_cons, inductionHypothesis, mem_keys_insertMember, List.map_cons, List.mem_cons]
    exact or_left_comm.trans or_assoc.symm

/-- However the given members stand, gathering keeps the keys in order. -/
theorem sorted_gather (sorted : (gathered.map Prod.fst).Pairwise (· < ·)) :
    ((gather members gathered).map Prod.fst).Pairwise (· < ·) := by
  induction members generalizing gathered with
  | nil => exact sorted
  | cons member rest inductionHypothesis => exact inductionHypothesis (sorted_insertMember sorted)

/-- A member whose key is greater than all others is put at the end. -/
theorem insertMember_of_greatest (greatest : ∀ other ∈ members.map Prod.fst, other < key) :
    insertMember key value members = members ++ [(key, value)] := by
  induction members with
  | nil => rfl
  | cons member rest inductionHypothesis =>
    obtain ⟨less, lessThanRest⟩ := List.forall_mem_cons.mp greatest
    have differ : key ≠ member.1 := fun same => String.lt_irrefl _ (same ▸ less)
    rw [insertMember, if_neg (String.lt_asymm less), if_neg differ,
      inductionHypothesis lessThanRest, List.cons_append]

/-- Members that are in the order of their keys are gathered as they stand. -/
theorem gather_of_sorted (sorted : ((gathered ++ members).map Prod.fst).Pairwise (· < ·)) :
    gather members gathered = gathered ++ members := by
  induction members generalizing gathered with
  | nil => simp [gather]
  | cons member rest inductionHypothesis =>
    have greatest : ∀ other ∈ gathered.map Prod.fst, other < member.1 := by
      rw [List.map_append, List.pairwise_append] at sorted
      exact fun other isOther => sorted.2.2 other isOther member.1 (by simp)
    rw [gather_cons, insertMember_of_greatest greatest, inductionHypothesis (by simpa using sorted)]
    simp

/-- An object that is made of members in the order of their keys has just these. -/
theorem ofMembers_of_sorted (sorted : (members.map Prod.fst).Pairwise (· < ·)) :
    ofMembers members = .object members := by
  have gathered : gather members [] = [] ++ members := gather_of_sorted sorted
  exact congrArg Json.object gathered

/-- Under a new key a member is added and none is replaced. -/
theorem insertMember_perm (absent : key ∉ members.map Prod.fst) :
    (insertMember key value members).Perm ((key, value) :: members) := by
  induction members with
  | nil => exact .refl _
  | cons member rest inductionHypothesis =>
    obtain ⟨differ, absentRest⟩ := List.ne_and_not_mem_of_not_mem_cons absent
    unfold insertMember
    split
    · exact .refl _
    · exact ((inductionHypothesis absentRest).cons _).trans (.swap _ _ _)

/-- Under distinct keys no member is lost by gathering. -/
theorem gather_perm (distinct : ((members ++ gathered).map Prod.fst).Nodup) :
    (gather members gathered).Perm (members ++ gathered) := by
  induction members generalizing gathered with
  | nil => exact .refl _
  | cons member rest inductionHypothesis =>
    rw [List.cons_append, List.map_cons, List.nodup_cons] at distinct
    have placed : (insertMember member.1 member.2 gathered).Perm (member :: gathered) := by
      refine insertMember_perm fun held => distinct.1 ?_
      rw [List.map_append]
      exact List.mem_append_right _ held
    have moved : (rest ++ insertMember member.1 member.2 gathered).Perm
        (member :: rest ++ gathered) :=
      (placed.append_left rest).trans List.perm_middle
    refine (inductionHypothesis ?_).trans moved
    rw [(moved.map Prod.fst).nodup_iff]
    exact List.nodup_cons.mpr distinct

/-- An object that is made of members with different keys has just these. -/
theorem ofMembers_perm (distinct : (members.map Prod.fst).Nodup) :
    ∃ held, ofMembers members = .object held ∧ held.Perm members := by
  have gathered : (gather members []).Perm (members ++ []) :=
    gather_perm (by rwa [List.append_nil])
  rw [List.append_nil] at gathered
  exact ⟨_, rfl, gathered⟩

end Dashboard.Json
