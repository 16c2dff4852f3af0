import AppletPage.Proofs.Service.Keeping

/-! Errors as they are answered: in the envelope of every answer, with details that JSON has a text
for, or in one answer that tells nothing of what went wrong. -/

namespace AppletPage

open Text

namespace Json

/-- All numbers in a value are finite. There is no JSON text for others. -/
inductive IsFinite : Json → Prop
  | null : IsFinite .null
  | bool (given : Bool) : IsFinite (.bool given)
  | integer (given : Int) : IsFinite (.integer given)
  | real {given : Number.Binary64} (finite : given.isFinite = true) : IsFinite (.real given)
  | string (given : String) : IsFinite (.string given)
  | array {items : List Json} (all : ∀ item ∈ items, IsFinite item) : IsFinite (.array items)
  | object {fields : List (String × Json)} (all : ∀ field ∈ fields, IsFinite field.2) :
      IsFinite (.object fields)

end Json

open Json (IsFinite)

namespace Response

/-- An error in the envelope of every answer: no data, and the code of the status. -/
structure TellsError (response : Response) : Prop where
  type : response.contentType = some jsonType
  unraised : response.raised = none
  told : ∃ message details, IsFinite details ∧
    response.body =
      (Envelope.fail (Envelope.code response.status) message details).write Json.Style.compact

theorem tellsError_error (status : Nat) (message : String) {details : Json}
    (finite : IsFinite details) : (error status message details).TellsError :=
  ⟨rfl, rfl, message, details, finite, rfl⟩

/-- What is sent for every failure that no other answer is made for. -/
def internalError : Response :=
  json 500 (Envelope.fail "internal_error" "Internal server error")

example : internalError.body =
    "\x7b\"ok\":false,\"data\":null,\"error\":\x7b\"code\":\"internal_error\"," ++
      "\"message\":\"Internal server error\",\"details\":null\x7d\x7d" := by
  decide

end Response

open Response (tellsError_error)

namespace Body

mutual

theorem isFinite_finite : (given : Json) → IsFinite (finite given)
  | .null => .null
  | .bool given => .bool given
  | .integer given => .integer given
  | .real given => by
      rw [finite]
      split
      · next isFinite => exact .real isFinite
      · exact .null
  | .string given => .string given
  | .array items => .array (isFinite_finiteItems items)
  | .object fields => .object (isFinite_finiteFields fields)

theorem isFinite_finiteItems :
    (items : List Json) → ∀ item ∈ finiteItems items, IsFinite item
  | [] => nofun
  | item :: rest => List.forall_mem_cons.mpr ⟨isFinite_finite item, isFinite_finiteItems rest⟩

theorem isFinite_finiteFields :
    (fields : List (String × Json)) → ∀ field ∈ finiteFields fields, IsFinite field.2
  | [] => nofun
  | (_, field) :: rest =>
      List.forall_mem_cons.mpr ⟨isFinite_finite field, isFinite_finiteFields rest⟩

end

theorem Issue.isFinite_details (issue : Issue) : IsFinite issue.details := by
  have place : ∀ part ∈ issue.location, IsFinite part := by
    cases issue with
    | malformed _ _ =>
        exact List.forall_mem_cons.mpr ⟨.string _, List.forall_mem_singleton.mpr (.integer _)⟩
    | noOverrides _ =>
        exact List.forall_mem_cons.mpr ⟨.string _, List.forall_mem_singleton.mpr (.string _)⟩
    | _ => exact List.forall_mem_singleton.mpr (.string _)
  have input : IsFinite issue.input := by
    cases issue with
    | missing => exact .null
    | malformed _ _ => exact .object nofun
    | noRecord input => exact isFinite_finite input
    | noOverrides input => exact isFinite_finite input
  have context : ∀ field ∈ issue.context, IsFinite field.2 := by
    cases issue with
    | malformed problem _ =>
        exact List.forall_mem_singleton.mpr
          (.object (List.forall_mem_singleton.mpr (.string problem.message)))
    | _ => exact nofun
  refine .array (List.forall_mem_singleton.mpr (.object fun field member => ?_))
  rcases List.mem_append.mp member with own | more
  · simp only [List.mem_cons, List.not_mem_nil, or_false] at own
    rcases own with rfl | rfl | rfl | rfl
    · exact .string _
    · exact .array place
    · exact .string _
    · exact input
  · exact context field more

theorem tellsError_of_refusal {issue : Issue} {response : Response}
    (answered : issue.refusal = .answer response) : response.TellsError := by
  rw [Issue.refusal, Envelope.writable] at answered
  split at answered
  · next details shown =>
    split at shown
    · cases shown
      cases answered
      exact tellsError_error 422 _ issue.isFinite_details
    · cases shown
  · cases answered

theorem tellsError_of_overrides {request : Request} {response : Response}
    (refused : overrides request = .error (.answer response)) : response.TellsError := by
  rw [overrides] at refused
  split at refused
  · exact tellsError_of_refusal (Except.error.inj refused)
  · cases refused
    exact tellsError_error 400 unreadableMessage .null
  · exact tellsError_of_refusal (Except.error.inj refused)
  · split at refused
    · cases refused
    · exact tellsError_of_refusal (Except.error.inj refused)
  · split at refused
    · exact tellsError_of_refusal (Except.error.inj refused)
    · cases refused

end Body

namespace Store

/-- A report of violations, if a failure has one, is JSON. -/
def Reports : Failure → Prop
  | .overrides (.rejected _ violations) => ∀ violation ∈ violations, IsFinite violation.toJson
  | _ => True

theorem isFinite_toJson {violation : Violation} (named : Overrides.Named violation) :
    IsFinite violation.toJson := by
  have path : IsFinite (.array violation.path) := by
    refine .array fun part member => ?_
    obtain ⟨name, rfl⟩ := named part member
    exact .string name
  refine .object fun field member => ?_
  rcases List.mem_append.mp member with own | rule
  · simp only [List.mem_cons, List.not_mem_nil, or_false] at own
    rcases own with rfl | rfl
    · exact path
    · exact .string violation.message
  · cases broken : violation.rule with
    | none => rw [broken] at rule; cases rule
    | some given =>
        rw [broken] at rule
        rw [List.mem_singleton.mp rule]
        exact .string given.name

theorem reports_of_validate {value : Json} {error : OverridesError}
    (refused : Overrides.validate value = .error error) : Reports (.overrides error) := by
  cases error with
  | nameNotText kind => trivial
  | rejected stage violations =>
      exact fun violation member =>
        isFinite_toJson (Overrides.named_of_validate refused violation member)

theorem reports_of_readOverrides {name : String} {content : Bytes} {failure : Failure}
    (failed : readOverrides name content = .error failure) : Reports failure := by
  rcases failure_of_readOverrides failed with rfl | rfl | ⟨value, error, refused, rfl⟩
  · trivial
  · trivial
  · exact reports_of_validate refused

theorem reports_of_accepted {fields : List (String × Json)} {failure : Failure}
    (refused : accepted (.object fields) = .error failure) : Reports failure := by
  cases result : Overrides.validate (.object fields) with
  | ok overrides => rw [accepted_of_valid result] at refused; cases refused
  | error error =>
      rw [accepted_of_invalid result] at refused
      cases refused
      exact reports_of_validate result

open HostAction Work

theorem ends_ofExcept {ε α : Type} {wrap : ε → Failure} {result : Except ε α} {good : α → Prop}
    (made : ∀ value, result = .ok value → good value)
    (failed : ∀ error, result = .error error → Reports (wrap error)) :
    Ends good Reports (ofExcept wrap result) := by
  cases result with
  | ok value => exact ends_pure (made value rfl)
  | error error => exact ends_throw (failed error rfl)

theorem ends_ofFiles {α : Type} (action : FileAction α) :
    Ends (fun _ => True) Reports (ofFiles action) := by
  intro host
  rw [run_ofFiles]
  cases action.run host.files with
  | mk result files => cases result <;> trivial

theorem ends_exists (path : Pathname) :
    Ends (fun _ => True) Reports (HostAction.exists path) := by
  intro host
  rw [run_exists]
  cases host.files.exists path <;> trivial

theorem ends_read (path : Pathname) : Ends (fun _ => True) Reports (HostAction.read path) := by
  intro host
  rw [run_read]
  cases host.files.read path <;> trivial

theorem ends_modify (change : Host → Host) :
    Ends (fun _ => True) Reports (modify change : HostAction Unit) := fun _ => trivial

theorem ends_load (store : Store) (user : Option String) :
    Ends Overrides.Settled Reports (load store user) := by
  cases store with
  | disabled => exact ends_pure Overrides.settled_nil
  | directory folder =>
      have path : Ends (fun _ => True) Reports (ofExcept Failure.username (file folder user)) :=
        ends_ofExcept (fun _ _ => trivial) fun _ _ => trivial
      refine path.bind fun path _ => (ends_exists path).bind fun there _ => ?_
      cases there with
      | false => exact ends_pure Overrides.settled_nil
      | true =>
          refine (ends_read path).bind fun content _ => ?_
          refine ends_ofExcept (fun overrides read => ?_) fun _ => reports_of_readOverrides
          obtain ⟨value, valid⟩ := validate_of_readOverrides read
          exact Overrides.settled_of_validate valid

theorem ends_keepChecked (folder : Pathname) (user : Option String) (overrides : WideOverrides) :
    Ends (fun _ => True) Reports (keepChecked folder user overrides) := by
  have path : Ends (fun _ => True) Reports (ofExcept Failure.username (file folder user)) :=
    ends_ofExcept (fun _ _ => trivial) fun _ _ => trivial
  have place (host : Host) :
      Ends (fun _ => True) Reports (ofExcept Failure.file (host.files.absolute folder)) :=
    ends_ofExcept (fun _ _ => trivial) fun _ _ => trivial
  refine path.bind fun path _ => (ends_ofFiles _).bind fun _ _ => ?_
  refine Ends.bind (fun _ => trivial) fun host _ => (place host).bind fun place _ => ?_
  dsimp only
  cases content overrides with
  | ok content =>
      refine Ends.bind ((ends_ofFiles _).bind fun gone _ => ends_modify _) fun _ _ => ?_
      exact (ends_modify _).bind fun _ _ => ends_pure trivial
  | error cut =>
      have stopped : Ends (fun _ => True) Reports
          (throw (.unencodable cut.error) : HostAction Unit) :=
        ends_throw trivial
      refine (ends_ofFiles _).bind fun _ _ => stopped.bind fun _ _ => ?_
      exact (ends_modify _).bind fun _ _ => ends_pure trivial

theorem ends_save (store : Store) (user : Option String) (fields : List (String × Json)) :
    Ends (fun _ => True) Reports (save store user (.object fields)) := by
  cases store with
  | disabled => exact ends_pure trivial
  | directory folder =>
      have overridden : Ends (fun _ => True) Reports (ofExcept id (accepted (.object fields))) :=
        ends_ofExcept (fun _ _ => trivial) fun _ => reports_of_accepted
      exact overridden.bind fun overrides _ => ends_keepChecked folder user (wide overrides)

end Store

namespace App

open HostAction Work

def Tells (response : Response) : Prop := 400 ≤ response.status → response.TellsError

theorem tells_of_status {response : Response} (fine : response.status < 400) : Tells response :=
  fun error => absurd error (Nat.not_le.mpr fine)

theorem tellsError_of_preferenceError? {failure : Failure} {response : Response}
    (reports : Store.Reports failure) (told : preferenceError? failure = some response) :
    response.TellsError := by
  unfold preferenceError? at told
  split at told
  · cases told
    exact tellsError_error 422 _ .null
  · cases told
    exact tellsError_error 422 _ (.array nofun)
  · next stage violations =>
    cases told
    refine tellsError_error 422 _ (.array fun item member => ?_)
    obtain ⟨violation, held, rfl⟩ := List.mem_map.mp member
    exact reports violation held
  · cases told

variable (app : App) (running : Running) (request : Request) (user : String)

/-- Work ends with an answer that tells an error if it is one. -/
abbrev Answers (work : HostAction Response) : Prop := Ends Tells (fun _ => True) work

theorem answers_pure {response : Response} (tells : Tells response) : Answers (pure response) :=
  ends_pure tells

theorem answers_success {response : Response} (success : response.status = 200) :
    Answers (pure response) :=
  answers_pure fun error => by omega

theorem ends_any {α : Type} (work : HostAction α) : Ends (fun _ => True) (fun _ => True) work := by
  intro host
  cases (work.run host).1 <;> trivial

theorem answers_page : Answers (answerPage running request) := by
  have rendered : Answers (do
      return .html (← pageFor running (trim ((request.parameter? "user").getD ""))).text) :=
    (ends_any _).bind fun _ _ => answers_success rfl
  refine rendered.tryCatch fun failure _ => ?_
  cases failure with
  | username invalid => exact answers_pure fun _ => tellsError_error 422 _ .null
  | _ => exact ends_throw trivial

theorem answers_plugins : Answers (answerPlugins running) :=
  (ends_any _).bind fun _ _ => answers_success rfl

theorem answers_answering {work : HostAction Response} (ends : Ends Tells Store.Reports work) :
    Answers (answering work) := by
  refine ends.tryCatch fun failure reports => ?_
  cases told : preferenceError? failure with
  | some response => exact answers_pure fun _ => tellsError_of_preferenceError? reports told
  | none => exact ends_throw trivial

theorem answers_readPreferences : Answers (app.readPreferences user) := by
  rw [readPreferences]
  cases app.store? with
  | none => exact answers_pure fun _ => tellsError_error 404 _ .null
  | some store =>
      exact answers_answering ((Store.ends_load store (some user)).bind fun _ _ =>
        ends_pure (tells_of_status (by decide : 200 < 400)))

theorem answers_keepPreferences : Answers (app.keepPreferences user request) := by
  rw [keepPreferences]
  cases read : Body.overrides request with
  | error refusal =>
      cases refusal with
      | answer response => exact answers_pure fun _ => Body.tellsError_of_overrides read
      | failure failure => exact ends_throw trivial
  | ok fields =>
      cases app.store? with
      | none => exact answers_pure fun _ => tellsError_error 404 _ .null
      | some store =>
          -- What is answered in the place of keeping them tells an error.
          have saved : Ends (fun refused : Option Response => ∀ told ∈ refused, told.TellsError)
              Store.Reports (do
                let _ ← store.save (some user) (.object fields)
                return none) :=
            (Store.ends_save store (some user) fields).bind fun _ _ =>
              ends_pure fun told given => absurd given (Option.not_mem_none told)
          refine (saved.tryCatch fun failure reports => ?_).bind fun refused told => ?_
          · cases told : preferenceError? failure with
            | some response =>
                refine ends_pure fun other same => ?_
                cases same
                exact tellsError_of_preferenceError? reports told
            | none => exact ends_throw trivial
          · cases refused with
            | some response => exact answers_pure fun _ => told response rfl
            | none =>
                exact (ends_any _).bind fun _ _ => answers_success rfl

theorem answers_whenRunning {answer : Running → HostAction Response}
    (answers : ∀ running, Answers (answer running)) : Answers (app.whenRunning answer) := by
  rw [whenRunning]
  cases app.running with
  | some running => exact answers running
  | none => exact answers_pure fun _ => tellsError_error 500 _ .null

theorem answers_route (route : Route) : Answers (app.answerRoute route request) := by
  cases route with
  | start => exact answers_pure (tells_of_status (by decide : 302 < 400))
  | health => exact answers_success rfl
  | page => exact answers_whenRunning app fun running => answers_page running request
  | parameters => exact answers_whenRunning app fun _ => answers_success rfl
  | plugins => exact answers_whenRunning app answers_plugins
  | info => exact answers_success rfl
  | preferences user =>
      rw [answerRoute]
      split
      · exact answers_keepPreferences app request user
      · exact answers_readPreferences app user

theorem answers_respond : Answers (app.respond request) := by
  rw [respond]
  split
  · split
    · exact answers_route app request _
    · exact answers_pure fun _ => tellsError_error 405 _ .null
  · split
    · exact answers_pure (tells_of_status (by decide : 307 < 400))
    · exact answers_pure fun _ => tellsError_error 404 _ .null

/-- An error is told in the envelope, unless it is a failure that no answer is made for: then the
answer is always the same. -/
theorem answer_error (app : App) (request : Request) (host : Host) :
    let response := (app.answer request host).1
    (∀ failure, ((app.respond request).run host).1 = .error failure →
        response = { Response.internalError with raised := some failure }) ∧
      ∀ told, ((app.respond request).run host).1 = .ok told →
        response = told ∧ (400 ≤ response.status → response.TellsError) := by
  have ended := answers_respond app request host
  dsimp only
  rw [answer]
  cases ran : (app.respond request).run host with
  | mk result after =>
      rw [ran] at ended
      cases result with
      | error failure =>
          refine ⟨fun other same => ?_, fun told same => ?_⟩
          · cases same
            rfl
          · cases same
      | ok given =>
          refine ⟨fun other same => ?_, fun told same => ?_⟩
          · cases same
          · cases same
            exact ⟨rfl, ended⟩

end App

end AppletPage
