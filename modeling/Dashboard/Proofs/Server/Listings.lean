import Dashboard.Proofs.Listing.Failure
import Dashboard.Proofs.Listing.Parameters
import Dashboard.Proofs.Server.Login
import Dashboard.Proofs.Server.Noninterference

/-!
# The limits of listings

From the settings of a server to the rows of an answer: settings that pass their check hold a
standard length that is itself within the limits, the request that is read keeps the limits, and
the store cuts the rows by the length of the request, with a filter and without one.
-/

namespace Dashboard.Listing

namespace RecordStore

variable {engine : PatternEngine} {store : RecordStore} {name : String}
  {request : ListRequest} {page : Page}

/-- A window to the end of a page is no longer than the page. -/
theorem length_window_pageEnd (request : ListRequest) (records : List Json) :
    (window records request.pageStart request.pageEnd).length ≤ request.pageLength := by
  rw [window, List.length_take, ListRequest.pageEnd]
  omega

/-- A page of a store has no more rows than the request asks for, whatever its search term
compiled to. -/
theorem length_rows_of_answerWith {compiled : Except Query.SearchError (Option Predicate)}
    (answered : answerWith store.source name request compiled = .ok page) :
    page.rows.length ≤ request.pageLength := by
  rcases compiled with cause | _ | predicate
  · cases answered
  · cases fetched : store.fetchOrdered name request.order
        (some (request.pageStart, request.pageEnd)) with
    | error cause =>
      simp only [answerWith, fetchPage, source, fetched] at answered
      cases answered
    | ok rows =>
      cases counted : store.count name with
      | error cause =>
        simp only [answerWith, fetchPage, source, fetched, counted] at answered
        cases answered
      | ok total =>
        simp only [answerWith, fetchPage, source, fetched, counted] at answered
        cases answered
        obtain ⟨collection, -, -, rfl⟩ := fetchOrdered_eq_ok_iff.mp fetched
        exact length_window_pageEnd request _
  · cases fetched : store.fetchOrdered name request.order none with
    | error cause =>
      simp only [answerWith, fetchMatching, source, fetched] at answered
      cases answered
    | ok ordered =>
      simp only [answerWith, fetchMatching, source, fetched] at answered
      cases answered
      exact List.length_take_le _ _

/-- Behind every cache, a page of a store has no more rows than the request asks for. -/
theorem length_rows_of_list {cache : QueryCache}
    (answered : (store.list engine cache name request).1 = .ok page) :
    page.rows.length ≤ request.pageLength := by
  by_cases empty : request.pageLength = 0
  · rw [list, runRequest_of_empty store.source empty] at answered
    cases answered
  · rw [list, runRequest_of_positive store.source name request (Nat.pos_of_ne_zero empty)]
      at answered
    exact length_rows_of_answerWith answered

end RecordStore

end Dashboard.Listing

namespace Dashboard.Server

open Listing

/-- Settings that pass their check hold a standard length of pages within the limits. -/
theorem Settings.pageLengths_of_validate {settings : Settings}
    (valid : settings.validate = .ok ()) :
    1 ≤ settings.defaultPageLength ∧ settings.defaultPageLength ≤ settings.maxPageLength := by
  unfold Settings.validate at valid
  split at valid
  · cases valid
  split at valid
  · cases valid
  split at valid
  · cases valid
  omega

/-- What a list endpoint answers to a method: a page of so many rows at most, or a refusal, which
has none; no content to a request for the head alone. -/
inductive ListAnswer (limit : Nat) (method : Http.Method) : Http.Response → Prop where
  | page {response page} (succeeded : response.status = 200)
      (content : response.content = .json (Page.toJson page))
      (bounded : page.rows.length ≤ limit) : ListAnswer limit method response
  | refused {response error} (failed : 400 ≤ response.status)
      (content : response.content = .json (RequestError.toJson error)) :
      ListAnswer limit method response
  | headOnly {response} (isHead : method = .head) (noContent : response.content = .empty) :
      ListAnswer limit method response

/-- Every refusal has the status of one. -/
theorem RequestError.status_ge (error : RequestError) : 400 ≤ error.status := by
  cases error with
  | account cause => cases cause <;> exact Nat.le_of_ble_eq_true rfl
  | list cause =>
    cases cause with
    | storage cause => cases cause <;> exact Nat.le_of_ble_eq_true rfl
    | badSearchTerm | unsortableField | invalidRequest => exact Nat.le_of_ble_eq_true rfl
  | permission cause => cases cause <;> exact Nat.le_of_ble_eq_true rfl
  | storage cause => cases cause <;> exact Nat.le_of_ble_eq_true rfl
  | badRequest | unprocessable | notFound | payloadTooLarge =>
    exact Nat.le_of_ble_eq_true rfl

section Answers

variable {limit : Nat} {method : Http.Method} {scheme : Account.SecretScheme}
  {engine : PatternEngine} {draws : Account.Draws} {state : ServerState}
  {resource : Resource} {request : Http.Request} {endpoint : Endpoint} {shelf : Shelf}

/-- Every refusal is an answer of a list endpoint. -/
theorem ListAnswer.of_error (error : RequestError) : ListAnswer limit method error.response :=
  .refused error.status_ge rfl

/-- A listing answers with a page within the limit or with a refusal. -/
theorem listAnswer_list :
    ListAnswer state.settings.maxPageLength method (list engine state shelf request).response := by
  unfold list
  split
  next error _ => exact .of_error (.list error)
  next listRequest isRead =>
    have asked := ListRequest.ofParameters_eq_ok_iff.mp isRead
    dsimp only
    split
    next error _ => exact .of_error (.list error)
    next page answered =>
      exact .page rfl rfl ((RecordStore.length_rows_of_list answered).trans asked.limited)

/-- A guarded listing answers as the listing or refuses. -/
theorem listAnswer_runEndpoint (lists : endpoint.action = .list shelf) :
    ListAnswer state.settings.maxPageLength method
      (runEndpoint scheme engine draws state resource request endpoint).response := by
  unfold runEndpoint
  split
  next error _ _ => exact .of_error error
  next =>
    rw [lists]
    exact listAnswer_list

/-- More headers change nothing of an answer, and for the head alone its content is left out. -/
theorem ListAnswer.told {response : Http.Response} (answer : ListAnswer limit method response)
    (headers : List (String × String)) :
    ListAnswer limit method
      (if method = .head then (response.withHeaders headers).withoutContent
        else response.withHeaders headers) := by
  split
  next isHead => exact .headOnly isHead rfl
  next =>
    cases answer with
    | page succeeded content bounded => exact .page succeeded content bounded
    | refused failed content => exact .refused failed content
    | headOnly isHead noContent => exact .headOnly isHead noContent

/-- Every request to a list endpoint is answered within the limit. -/
theorem listAnswer_respond (named : resourceOf? request = some resource)
    (answers : resource.endpoint? request.method = some endpoint)
    (lists : endpoint.action = .list shelf) :
    ListAnswer state.settings.maxPageLength request.method
      (respond scheme engine draws state request).response := by
  have routed : route scheme engine draws state request =
      runEndpoint scheme engine draws state resource request endpoint := by
    rw [route, named]
    dsimp only
    rw [answers]
  rw [respond, if_neg (ne_options_of_endpoint? answers), routed]
  exact (listAnswer_runEndpoint lists).told _

end Answers

/-- List requests keep the limits. A request is read exactly from the parameters that ask for it,
and so from some parameters exactly when their counts and their flag denote something and the
length of the page keeps the limits; a request within the limits is read back from its own
parameters in any order. Under settings that pass their check a request without a length is refused
only for what stands in its other parameters, and no list endpoint answers with more rows than the
limit allows. -/
theorem list_requests_keep_limits :
    (∀ parameters limits request,
      ListRequest.ofParameters parameters limits = .ok request ↔
        request.AskedBy parameters limits) ∧
    (∀ parameters limits,
      (∃ request, ListRequest.ofParameters parameters limits = .ok request) ↔
        ListRequest.CanBeRead parameters limits) ∧
    (∀ parameters limits (request : ListRequest), request.Within limits →
      parameters.Perm request.toParameters →
        ListRequest.ofParameters parameters limits = .ok request) ∧
    ∀ settings : Settings, settings.validate = .ok () →
      (∀ parameters, ListRequest.parameter? parameters "pageLength" = none →
        ((∃ request, ListRequest.ofParameters parameters settings.pageLimits = .ok request) ↔
          (∃ count, ParameterIs parameters "pageStart" 0 CountText count) ∧
            ∃ flag, ParameterIs parameters "reverseSort" true FlagText flag)) ∧
      ∀ scheme engine draws (state : ServerState) request resource endpoint shelf,
        state.settings = settings → resourceOf? request = some resource →
        resource.endpoint? request.method = some endpoint → endpoint.action = .list shelf →
          ListAnswer settings.maxPageLength request.method
            (respond scheme engine draws state request).response := by
  refine ⟨fun _ _ _ => ListRequest.ofParameters_eq_ok_iff,
    fun _ _ => ListRequest.exists_ofParameters_iff,
    fun _ _ _ => ListRequest.ofParameters_of_perm, fun settings valid => ⟨?_, ?_⟩⟩
  · intro parameters notGiven
    obtain ⟨positive, limited⟩ := Settings.pageLengths_of_validate valid
    exact ListRequest.exists_ofParameters_of_noLength notGiven positive limited
  · rintro scheme engine draws state request resource endpoint shelf rfl named answers lists
    exact listAnswer_respond named answers lists

/-- Settings with pages of two rows at most, and of two without a length. -/
def twoRowSettings : Settings :=
  { Settings.standard with defaultPageLength := 2, maxPageLength := 2 }

/-- A server with three tasks and a session. -/
def threeTaskState : ServerState :=
  { ServerState.start twoRowSettings with
    accounts := ⟨.empty,
      (Account.SessionTable.empty.openSession Account.Accounts.plainScheme "t" ghost).1⟩
    records := ServerState.emptyRecords.withCollection "tasks"
      ⟨"id", ["id", "time"], ["a", "b", "c"].map fun key => .object [("id", .string key)]⟩ }

/-- A request for the tasks in that session, without a length. -/
def tasksRequest : Http.Request :=
  ⟨.get, .ofText "/api/v1/tasks?pageStart=%2b0&reverseSort=FALSE", [("x-csrf-token", "t")], []⟩

/-- The largest start is read and the one behind it is not, a request comes back from its
parameters in another order, and of three tasks two are answered. -/
theorem three_tasks_keep_limits :
    let limits := twoRowSettings.pageLimits
    let request : ListRequest := ⟨7, 1, "status", false, "a b"⟩
    let response := (respond Account.Accounts.plainScheme .standard (Account.Accounts.evenDraws 0)
      threeTaskState tasksRequest).response
    twoRowSettings.validate = .ok () ∧
    ListRequest.ofParameters [("pageStart", "\t+018446744073709551615 ")] limits =
      .ok (.startingAt (.first 2) 18446744073709551615) ∧
    (¬ ∃ request, ListRequest.ofParameters [("pageStart", "18446744073709551616")] limits =
      .ok request) ∧
    request.Within limits ∧
    ListRequest.ofParameters request.toParameters.reverse limits = .ok request ∧
    response.status = 200 ∧ ListAnswer 2 .get response := by
  intro limits request response
  have valid : twoRowSettings.validate = .ok () := by decide +kernel
  have within : request.Within limits :=
    ⟨by decide +kernel, by decide +kernel, by decide +kernel, by decide +kernel⟩
  obtain ⟨reads, -, back, limited⟩ := list_requests_keep_limits
  obtain ⟨-, rows⟩ := limited twoRowSettings valid
  have start : CountText "\t+018446744073709551615 " 18446744073709551615 :=
    @CountText.numeral _ ['\t'] ['+'] "018446744073709551615".toList [' '] (by simp [Text.isBlank])
      (by simp [Text.isBlank]) (.inr rfl) ⟨by decide, by simp⟩ (by decide) (by decide +kernel)
  refine ⟨valid, ?_, ?_, within, back _ limits request within (List.reverse_perm _), ?_,
    rows _ _ _ _ tasksRequest .tasks ⟨.get, .list .tasks, .session⟩ .tasks rfl rfl rfl rfl⟩
  · exact (reads _ _ _).mpr
      ⟨.given rfl start, .missing rfl, by decide, by decide, .missing rfl, rfl, rfl⟩
  · rintro ⟨request, isRead⟩
    cases isRead
  · decide +kernel

end Dashboard.Server
