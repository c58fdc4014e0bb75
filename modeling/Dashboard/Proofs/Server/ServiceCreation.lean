import Dashboard.Proofs.Json.Members
import Dashboard.Proofs.Server.Mutation

/-!
# The environments of a new service

A request for a new service is read twice: the guard reads its body as a value, in which
the last of several members counts, and the action reads it as a form, which refuses a
repeated field and may be an array. The two readings agree where it matters: a service is
stored only for the environments that the guard has checked.
-/

namespace Dashboard.Server

open Permission

/-- A single field of a body is bound to its placeholder. -/
theorem lookup_bindAll_single (name field : String) (value? : String → Option Json) :
    Json.lookup name (bindAll [(name, field)] value?) = value? field := by
  simp only [bindAll, List.foldl_cons, List.foldl_nil]
  cases value? field with
  | none => rfl
  | some value => simp [Json.insertMember, Json.lookup]

/-- The record of a service names the environments of its form. -/
theorem environments_record (form : Deployment.ServiceForm) (now : Int) :
    (form.record now).get? "environments" = some (.ofStrings form.environments) := by
  have last : ∀ other : Json, ("environments", other) ∉
      [("image-name", Json.string form.imageName), ("time", .number (.int now))] := by simp
  have members : form.record now = Json.ofMembers ([("name", .string form.name)] ++
      ("environments", .ofStrings form.environments) ::
        [("image-name", Json.string form.imageName), ("time", .number (.int now))]) := rfl
  rw [members]
  exact Json.get?_ofMembers_append last

/-- The environments of a service are the texts in the field that the body gives for them. -/
theorem texts_of_ofDocument? {document : Json.Document} {form : Deployment.ServiceForm}
    (read : Deployment.ServiceForm.ofDocument? document = some form) :
    ∃ fields fieldDocument,
      Json.FieldDocuments.ofDocument?
        [⟨"service-name", false⟩, ⟨"environments", false⟩, ⟨"image-name", false⟩] document =
        some fields ∧
      fields.get? "environments" = some fieldDocument ∧
      fieldDocument.texts? = some form.environments := by
  simp only [Deployment.ServiceForm.ofDocument?, Option.bind_eq_bind,
    Option.bind_eq_some_iff, Option.pure_def, Option.some.injEq] at read
  obtain ⟨fields, taken, name, _, environments, required, imageName, _, rfl⟩ := read
  obtain ⟨fieldDocument, found, texts⟩ := Option.bind_eq_some_iff.mp required
  exact ⟨fields, fieldDocument, taken, found, texts⟩

/-- Where the guard binds the environments of a body that is read as a form, it binds them
to those of the form. -/
theorem environments_bound {body : List UInt8} {form : Deployment.ServiceForm}
    {values : Placeholders} {value : Json}
    (read : (Json.Document.ofOctets? body).bind Deployment.ServiceForm.ofDocument? = some form)
    (resolved : Resolver.bodyFields [("environments", "environments")] ⟨body, []⟩ = .ok values)
    (bound : Json.lookup "environments" values = some value) :
    value = .ofStrings form.environments := by
  unfold Resolver.bodyFields at resolved
  split at resolved
  · cases resolved
  · rename_i members isObject
    cases resolved
    rw [lookup_bindAll_single] at bound
    unfold RequestContext.jsonBody at isObject
    split at isObject
    · -- A blank body gives the guard no environments at all.
      cases isObject
      cases bound
    · split at isObject
      · rename_i json valueRead
        cases isObject
        obtain ⟨document, isDocument, isForm⟩ := Option.bind_eq_some_iff.mp read
        have denotes : document.value? = some (.object members) := by
          simpa [Json.ofOctets?, isDocument] using valueRead
        obtain ⟨fields, fieldDocument, taken, found, texts⟩ := texts_of_ofDocument? isForm
        obtain ⟨depth, held, heldRead, isHeld⟩ :=
          Json.FieldDocuments.lookup_of_ofDocument? (by decide) taken denotes found
        cases bound.symm.trans isHeld
        exact Json.Document.value_of_texts? texts heldRead
      · cases isObject
  · cases resolved

/-- What permits a new service also permits each of its environments. -/
theorem holds_of_permits {request : Http.Request} {tree : Json}
    {form : Deployment.ServiceForm}
    (read : (Json.Document.ofOctets? request.body).bind Deployment.ServiceForm.ofDocument? =
      some form)
    (permitted : Permits request tree (.shelf .services)) :
    Grants tree "cion.config.edit" [] ∨
      ∀ environment ∈ form.environments,
        Holds "service" ["cion", "environment", environment] tree := by
  rcases permitted with edit | ⟨values, resolved, path, parsed, granted⟩
  · exact .inl edit
  · right
    cases parsed.symm.trans parse_environmentServicePath
    have walked : (walk values (["cion", "environment"].map .literal ++
        .placeholder "environments" :: ([].map .literal ++ [.literal "service"])) tree).granted
        = true := granted
    obtain ⟨value, bound⟩ := bound_of_granted walked
    rw [environments_bound read resolved bound] at bound
    exact holds_of_granted_texts bound walked

/-- Only the creation of a service may change the services. -/
theorem eq_createService {action : Action}
    (changes : action.store? = some (.shelf .services)) : action = .createService := by
  cases action <;> simp [Action.store?] at changes ⊢

/-- The services are created by posts to the one resource. -/
theorem services_of_endpoint? {resource : Resource} {method : Http.Method}
    {endpoint : Endpoint} (answers : resource.endpoint? method = some endpoint)
    (creates : endpoint.action = .createService) :
    resource = .services ∧ method = .post := by
  have inTable : ∀ known ∈ resource.endpoints, known.action = .createService →
      resource = .services ∧ known.method = .post := by
    cases resource <;> simp [Resource.endpoints]
  obtain ⟨isServices, isPost⟩ := inTable endpoint (mem_of_endpoint? answers) creates
  have answered := List.find?_some answers
  have isMethod : .post = method := by simpa [Endpoint.answers, isPost] using answered
  exact ⟨isServices, isMethod.symm⟩

/-- Where the creation of a service changes the services, the record of a form is added. -/
theorem Effect.serviceAdded {draws : Account.Draws} {body : List UInt8}
    {before after : ServerState} {status : Nat}
    (effect : Effect draws body before status after .createService)
    (differs : Differs before after (.shelf .services)) :
    ∃ form, (Json.Document.ofOctets? body).bind Deployment.ServiceForm.ofDocument? = some form ∧
      after.records.recordsOf "services" =
        before.records.recordsOf "services" ++ [form.record draws.now] := by
  cases effect with
  | nothing _ records => exact absurd (by rw [records]) differs
  | recordAdded adds _ inserted _ =>
    cases adds with
    | service read => exact ⟨_, read, Listing.RecordStore.recordsOf_of_insert inserted⟩

/-- For every state and every request: the services stay as they are, or one is added by a
post of a live session whose tree grants the configuration, or else grants services in
every environment that the stored record names. -/
theorem respond_adds_permitted_service (scheme : Account.SecretScheme)
    (engine : PatternEngine) (draws : Account.Draws) (state : ServerState)
    (request : Http.Request) :
    let after := (respond scheme engine draws state request).state
    after.records.recordsOf "services" = state.records.recordsOf "services" ∨
      ∃ user record environments,
        resourceOf? request = some .services ∧ request.method = .post ∧
        state.accounts.verify scheme (requestToken request) = .ok user ∧
        after.records.recordsOf "services" = state.records.recordsOf "services" ++ [record] ∧
        record.get? "environments" = some (.ofStrings environments) ∧
        (Grants user.permissions "cion.config.edit" [] ∨
          ∀ environment ∈ environments,
            Holds "service" ["cion", "environment", environment] user.permissions) := by
  intro after
  rcases respond_effect scheme engine draws state request with
    same | ⟨resource, endpoint, user, served⟩
  · exact .inl (by simp only [after, same])
  · by_cases differs : Differs state after (.shelf .services)
    · right
      have changes := served.effect.store?_of_differs differs
      have creates := eq_createService changes
      obtain ⟨rfl, isPost⟩ := services_of_endpoint? served.answers creates
      have protection := protection_of_store? (mem_of_endpoint? served.answers) changes
      obtain ⟨known, live, permitted⟩ := permits_of_authorized protection served.authorized
      have effect := served.effect
      rw [creates] at effect
      obtain ⟨form, read, added⟩ := effect.serviceAdded differs
      exact ⟨known, form.record draws.now, form.environments, served.named, isPost, live, added,
        environments_record form draws.now, holds_of_permits read permitted⟩
    · exact .inl (Listing.RecordStore.recordsOf_of_same (Classical.not_not.mp differs))

end Dashboard.Server
