import Dashboard.Proofs.Server.Guard

/-!
# Every change is authorized

What follows from the effects of requests and the protections of endpoints together: a
store changes only for a live session whose tree permits it, one request changes one store
at most, users, environments and services are only ever added, and a request that is
refused changes neither users nor records.
-/

namespace Dashboard.Server

/-- No two collections have the same name. -/
theorem Shelf.name_injective {first second : Shelf} (same : first.name = second.name) :
    first = second := by
  cases first <;> cases second <;> simp [Shelf.name] at same ⊢

/-- An action adds records to the collection that it may change. -/
theorem Adds.store? {draws : Account.Draws} {body : List UInt8} {action : Action}
    {shelf : Shelf} {record : Json} (adds : Adds draws body action shelf record) :
    action.store? = some (.shelf shelf) := by
  cases adds <;> rfl

namespace Effect

variable {draws : Account.Draws} {body : List UInt8} {before after : ServerState}
  {status : Nat} {action : Action}

/-- Users stay as they are, unless the action may change them. -/
theorem users_agree (effect : Effect draws body before status after action) :
    after.accounts.users = before.accounts.users ∨ action.store? = some .users := by
  cases effect with
  | nothing users _ | recordAdded _ users _ _ | webhookRemoved users _ _
  | documentSaved users _ _ => exact .inl users
  | userAdded _ _ _ _ => exact .inr rfl

/-- The records that an effect leaves: all as they were, or all but one collection, which
is the store of the action. -/
theorem records_agree (effect : Effect draws body before status after action) :
    after.records = before.records ∨
      ∃ shelf, action.store? = some (.shelf shelf) ∧
        Listing.RecordStore.AgreeBut shelf.name before.records after.records := by
  cases effect with
  | nothing _ records | userAdded _ _ records _ => exact .inl records
  | recordAdded adds _ inserted _ =>
    exact .inr ⟨_, adds.store?, Listing.RecordStore.agreeBut_of_insert inserted⟩
  | webhookRemoved _ deleted _ =>
    exact .inr ⟨.webhooks, rfl, Listing.RecordStore.agreeBut_of_delete deleted⟩
  | documentSaved _ upserted _ =>
    exact .inr ⟨.documents, rfl, Listing.RecordStore.agreeBut_of_upsert upserted⟩

/-- An effect changes no other store than that of its action. -/
theorem store?_of_differs {store : Store}
    (effect : Effect draws body before status after action)
    (differs : Differs before after store) : action.store? = some store := by
  cases store with
  | users => exact effect.users_agree.resolve_left differs
  | shelf other =>
    rcases effect.records_agree with records | ⟨shelf, isStore, agree⟩
    · exact absurd (by rw [records]) differs
    · by_cases same : other.name = shelf.name
      · rw [isStore, Shelf.name_injective same]
      · exact absurd (agree other.name same) differs

/-- Collections that no action is about stay as they are. -/
theorem otherCollection {name : String}
    (effect : Effect draws body before status after action)
    (noShelf : ∀ shelf : Shelf, shelf.name ≠ name) :
    after.records.collections.get? name = before.records.collections.get? name := by
  rcases effect.records_agree with records | ⟨shelf, _, agree⟩
  · rw [records]
  · exact agree name (noShelf shelf).symm

/-- Users are only added, behind those that are there. -/
theorem users_prefix (effect : Effect draws body before status after action) :
    before.accounts.users.users.entries <+: after.accounts.users.users.entries := by
  cases effect with
  | nothing users _ | recordAdded _ users _ _ | webhookRemoved users _ _
  | documentSaved users _ _ => simp only [users, List.prefix_rfl]
  | @userAdded user users created usersAfter _ _ =>
    unfold Account.UserTable.create at created
    split at created
    · cases created
    · rename_i fresh
      cases created
      have absent : before.accounts.users.users.get? user.username = none := by
        simpa [Table.contains] using fresh
      rw [usersAfter, Table.entries_insert_of_absent absent]
      exact List.prefix_append _ _

/-- In a collection that is neither that of webhooks nor that of documents, records are
only added, behind those that are there. -/
theorem records_prefix {shelf : Shelf} (noWebhooks : shelf ≠ .webhooks)
    (noDocuments : shelf ≠ .documents)
    (effect : Effect draws body before status after action) :
    before.records.recordsOf shelf.name <+: after.records.recordsOf shelf.name := by
  have untouched {name : String} (differ : shelf.name ≠ name)
      (agree : Listing.RecordStore.AgreeBut name before.records after.records) :
      before.records.recordsOf shelf.name <+: after.records.recordsOf shelf.name := by
    simp only [Listing.RecordStore.recordsOf_of_agreeBut agree differ, List.prefix_rfl]
  cases effect with
  | nothing _ records | userAdded _ _ records _ => simp only [records, List.prefix_rfl]
  | @recordAdded _ added _ _ _ _ inserted _ =>
    by_cases same : shelf = added
    · subst same
      rw [Listing.RecordStore.recordsOf_of_insert inserted]
      exact List.prefix_append _ _
    · exact untouched (same ∘ Shelf.name_injective)
        (Listing.RecordStore.agreeBut_of_insert inserted)
  | webhookRemoved _ deleted _ =>
    exact untouched (noWebhooks ∘ Shelf.name_injective)
      (Listing.RecordStore.agreeBut_of_delete deleted)
  | documentSaved _ upserted _ =>
    exact untouched (noDocuments ∘ Shelf.name_injective)
      (Listing.RecordStore.agreeBut_of_upsert upserted)

/-- Behind an answer of failure, users and records are as they were. -/
theorem unchanged_of_failure (effect : Effect draws body before status after action)
    (failed : 400 ≤ status) :
    after.accounts.users = before.accounts.users ∧ after.records = before.records := by
  cases effect with
  | nothing users records => exact ⟨users, records⟩
  | userAdded _ _ _ succeeded | recordAdded _ _ _ succeeded | webhookRemoved _ _ succeeded
  | documentSaved _ _ succeeded => omega

end Effect

/-- Every request has the effect of some action, and where that action may change a store,
a live session's tree permits it. -/
theorem permitted_effect (scheme : Account.SecretScheme) (engine : PatternEngine)
    (draws : Account.Draws) (state : ServerState) (request : Http.Request) :
    ∃ action,
      (respond scheme engine draws state request).HasEffect draws request.body state action ∧
      ∀ store, action.store? = some store →
        ∃ user, state.accounts.verify scheme (requestToken request) = .ok user ∧
          Permits request user.permissions store := by
  rcases respond_effect scheme engine draws state request with
    same | ⟨resource, endpoint, user, served⟩
  · have effect : (respond scheme engine draws state request).HasEffect draws request.body state
        .showHealth := .nothing (by rw [same]) (by rw [same])
    refine ⟨.showHealth, effect, ?_⟩
    intro store changes
    cases changes
  · refine ⟨endpoint.action, served.effect, ?_⟩
    intro store changes
    have registered := mem_of_endpoint? served.answers
    exact permits_of_authorized (protection_of_store? registered changes) served.authorized

/-- For every state and every request: a store that changes belongs to a live session
whose tree permits the change, at most one store changes, users, environments and services
are only added, and behind an answer of failure users and records are as they were. -/
theorem respond_changes_only_as_permitted (scheme : Account.SecretScheme)
    (engine : PatternEngine) (draws : Account.Draws) (state : ServerState)
    (request : Http.Request) :
    let outcome := respond scheme engine draws state request
    (∀ store, Differs state outcome.state store →
      ∃ user, state.accounts.verify scheme (requestToken request) = .ok user ∧
        Permits request user.permissions store) ∧
    (∀ first second, Differs state outcome.state first →
      Differs state outcome.state second → first = second) ∧
    (∀ name, (∀ shelf : Shelf, shelf.name ≠ name) →
      outcome.state.records.collections.get? name = state.records.collections.get? name) ∧
    state.accounts.users.users.entries <+: outcome.state.accounts.users.users.entries ∧
    (∀ shelf, shelf = Shelf.environments ∨ shelf = Shelf.services →
      state.records.recordsOf shelf.name <+: outcome.state.records.recordsOf shelf.name) ∧
    (400 ≤ outcome.response.status →
      outcome.state.accounts.users = state.accounts.users ∧
        outcome.state.records = state.records) := by
  intro outcome
  obtain ⟨action, effect, permitted⟩ := permitted_effect scheme engine draws state request
  have only {store : Store} (differs : Differs state outcome.state store) :
      action.store? = some store := effect.store?_of_differs differs
  refine ⟨?_, ?_, ?_, effect.users_prefix, ?_, effect.unchanged_of_failure⟩
  · intro store differs
    exact permitted store (only differs)
  · intro first second firstDiffers secondDiffers
    exact Option.some.inj ((only firstDiffers).symm.trans (only secondDiffers))
  · intro name noShelf
    exact effect.otherCollection noShelf
  · rintro shelf (rfl | rfl)
    · exact effect.records_prefix (by decide) (by decide)
    · exact effect.records_prefix (by decide) (by decide)

end Dashboard.Server
