import AppletPage.Proofs.Service.Body
import AppletPage.Proofs.Service.Keeping

/-! What one request does to a host: it adds lines to the journal, and a request that keeps
preferences puts the file of one user. -/

namespace AppletPage

open Text

def Request.Keeps (request : Request) (user : String) : Prop :=
  request.method = "PUT" ∧ Route.ofPath? request.path = some (.preferences user)

namespace App

open HostAction

variable {running : Running} {place : Path} {host after : Host} {user : String}
  {request : Request} {response : Response}

/-! Requests that keep nothing. -/

theorem onlyLogged_of_eq {a b : Host} (same : b = a) : a.OnlyLogged b := same ▸ .refl a

theorem onlyLogged_pageFor (running : Running) (user : String) (host : Host) :
    host.OnlyLogged ((pageFor running user).run host).2 := by
  rw [pageFor]
  split
  · exact .refl host
  · refine Work.rel_run_bind Host.OnlyLogged .trans ?_ fun overrides between => ?_
    · refine Work.rel_run_tryCatch Host.OnlyLogged .trans ?_ fun failure between => ?_
      · refine Work.rel_run_bind Host.OnlyLogged .trans ?_ fun _ between => .refl between
        exact onlyLogged_of_eq (Store.snd_run_load running.store (some user) host)
      · cases isBroken failure with
        | true => exact Host.onlyLogged_log _ _ _ between
        | false => exact .refl between
    · cases overrides with
      | none => exact .refl between
      | some overrides => exact onlyLogged_of_eq (snd_run_ofExcept _ _ between)

theorem onlyLogged_answerPage (running : Running) (request : Request) (host : Host) :
    host.OnlyLogged ((answerPage running request).run host).2 := by
  refine Work.rel_run_tryCatch Host.OnlyLogged .trans ?_ fun failure between => ?_
  · exact Work.rel_run_bind Host.OnlyLogged .trans (onlyLogged_pageFor running _ host)
      fun _ between => .refl between
  · cases failure <;> exact .refl between

theorem snd_run_answering {action : HostAction Response} (unchanged : (action.run host).2 = host) :
    ((answering action).run host).2 = host := by
  rw [answering, run_tryCatch]
  cases ran : action.run host with
  | mk result between =>
      rw [ran] at unchanged
      cases result with
      | ok value => exact unchanged
      | error failure =>
          dsimp only
          cases preferenceError? failure <;> exact unchanged

theorem snd_run_readPreferences (app : App) (user : String) (host : Host) :
    ((app.readPreferences user).run host).2 = host := by
  rw [readPreferences]
  cases app.store? with
  | none => rfl
  | some store =>
      apply snd_run_answering
      have unchanged := Store.snd_run_load store (some user) host
      rw [run_bind]
      cases ran : (store.load (some user)).run host with
      | mk result between =>
          rw [ran] at unchanged
          cases result <;> exact unchanged

theorem onlyLogged_answerRoute (route : Route)
    (other : ∀ user, route = .preferences user → request.method ≠ "PUT") (host : Host) :
    host.OnlyLogged
      ((answerRoute { running := some running } route request).run host).2 := by
  cases route with
  | page => exact onlyLogged_answerPage running request host
  | plugins =>
      exact Work.rel_run_bind Host.OnlyLogged .trans (onlyLogged_of_eq (snd_run_ofExcept _ _ host))
        fun _ between => .refl between
  | preferences user =>
      rw [answerRoute, if_neg (other user rfl)]
      exact onlyLogged_of_eq (snd_run_readPreferences _ user host)
  | _ => exact .refl host

theorem onlyLogged_respond (other : ∀ user, ¬ request.Keeps user) (host : Host) :
    host.OnlyLogged ((respond { running := some running } request).run host).2 := by
  rw [respond]
  cases found : Route.ofPath? request.path with
  | none =>
      dsimp only
      cases Route.redirection? request <;> exact .refl host
  | some route =>
      dsimp only
      split
      · refine onlyLogged_answerRoute route (fun user same put => other user ⟨put, ?_⟩) host
        rw [found, same]
      · exact .refl host

theorem respond_of_keeps (app : App) (keeps : request.Keeps user) :
    app.respond request = app.keepPreferences user request := by
  have allowed : request.method ∈ (Route.preferences user).methods := by
    rw [keeps.1]
    exact List.mem_cons_of_mem "GET" List.mem_cons_self
  rw [respond, keeps.2]
  dsimp only
  rw [if_pos allowed, answerRoute, if_pos keeps.1]

/-! The answer, and its line in the journal. -/

theorem answer_of_ok {app : App} (ran : (app.respond request).run host = (.ok response, after)) :
    ∃ line, app.answer request host = (response, after.log source .info line) := by
  rw [answer, ran]
  exact ⟨_, rfl⟩

theorem answer_of_error {app : App} {failure : Failure}
    (ran : (app.respond request).run host = (.error failure, after)) :
    ∃ line, app.answer request host = (.unhandled failure, after.log source .error line) := by
  rw [answer, ran]
  exact ⟨_, rfl⟩

theorem onlyLogged_answer (app : App) (request : Request) (host : Host) :
    ((app.respond request).run host).2.OnlyLogged (app.answer request host).2 := by
  rw [answer]
  cases (app.respond request).run host with
  | mk result after => cases result <;> exact Host.onlyLogged_log _ _ _ after

/-! What any request does where preferences are kept. -/

/-- The files of users have their directory, and none of them is a link. -/
structure Lodged (running : Running) (place : Path) (host : Host) : Prop where
  housed : Housed running host
  located : host.files.locate running.layout.prefs = .present place .directory
  unlinked : ∀ user, User.isName user = true →
    ∀ target, host.files.get? (place ++ [Store.fileName user]) ≠ some (.link target)

/-- The answer to a request and the host it leaves: the request keeps the preferences of a user, and
is answered by them as they are kept, or it only adds lines to the journal. -/
inductive Effect (running : Running) (place : Path) (request : Request) (host : Host) :
    Response → Host → Prop where
  | logged {response : Response} {after : Host} (lines : host.OnlyLogged after)
      (unkept : ∀ user, request.Keeps user → response.status ≠ 200) :
      Effect running place request host response after
  | kept {user : String} {fields : List (String × Json)} {overrides : Overrides} {after : Host}
      (keeps : request.Keeps user) (read : Body.overrides request = .ok fields)
      (valid : Overrides.validate (.object fields) = .ok overrides)
      (fits : Store.unkept? running.layout.prefs user
        (host.files.get? (place ++ [Store.fileName user])) = none)
      (lines : (kept place user overrides host).OnlyLogged after) :
      Effect running place request host (.ok (preferenceData user overrides.sorted)) after

theorem status_of_preferenceError? {failure : Failure}
    (user's : preferenceError? failure = some response) : response.status = 422 := by
  unfold preferenceError? at user's
  split at user's <;> cases user's <;> rfl

theorem effect_of_refused {app : App} {failure : Failure}
    (ran : (app.respond request).run host = refused failure host) :
    Effect running place request host (app.answer request host).1 (app.answer request host).2 := by
  rw [refused] at ran
  cases told : preferenceError? failure with
  | some response =>
      rw [told] at ran
      obtain ⟨line, answered⟩ := answer_of_ok ran
      rw [answered]
      refine .logged (Host.onlyLogged_log _ _ _ host) fun _ _ => ?_
      rw [status_of_preferenceError? told]
      decide
  | none =>
      rw [told] at ran
      obtain ⟨line, answered⟩ := answer_of_error ran
      rw [answered]
      exact .logged (Host.onlyLogged_log _ _ _ host) fun _ _ => by change 500 ≠ 200; decide

theorem effect_answer (started : Started running) (lodged : Lodged running place host)
    (enabled : running.config.preferences.enabled = true) (request : Request) :
    Effect running place request host
      (answer { running := some running } request host).1
      (answer { running := some running } request host).2 := by
  by_cases putting : ∃ user, request.Keeps user
  -- The cases are the stages of keeping: the body, its overrides, the name and the place.
  · obtain ⟨user, keeps⟩ := putting
    have ran := run_keepPreferences lodged.housed.plain.prefs lodged.housed.prefs enabled
      (store_of_started started enabled) lodged.located (lodged.unlinked user) request
    rw [← respond_of_keeps _ keeps] at ran
    have body := Body.overridden request
    cases read : Body.overrides request with
    | error refusal =>
        rw [read] at body ran
        cases body with
        | @answered status message details client =>
            obtain ⟨line, answered⟩ := answer_of_ok ran
            rw [answered]
            refine .logged (Host.onlyLogged_log _ _ _ host) fun _ _ => ?_
            change status ≠ 200
            omega
        | unshown unshown =>
            obtain ⟨line, answered⟩ := answer_of_error ran
            rw [answered]
            exact .logged (Host.onlyLogged_log _ _ _ host) fun _ _ => by change 500 ≠ 200; decide
    | ok fields =>
        rw [read] at ran
        dsimp only at ran
        cases valid : Overrides.validate (.object fields) with
        | error error =>
            rw [Store.accepted_of_invalid valid] at ran
            exact effect_of_refused ran
        | ok overrides =>
            rw [Store.accepted_of_valid valid] at ran
            dsimp only at ran
            cases fits : Store.unkept? running.layout.prefs user
                (host.files.get? (place ++ [Store.fileName user])) with
            | some failure =>
                rw [fits] at ran
                exact effect_of_refused ran
            | none =>
                rw [fits] at ran
                obtain ⟨line, answered⟩ := answer_of_ok ran
                rw [answered]
                exact .kept keeps read valid fits (Host.onlyLogged_log _ _ _ _)
  · have other (user : String) : ¬ request.Keeps user := fun keeps => putting ⟨user, keeps⟩
    exact .logged ((onlyLogged_respond other host).trans (onlyLogged_answer _ request host))
      fun user keeps => absurd keeps (other user)

/-! What any request does where users have no preferences. -/

theorem snd_run_keepPreferences_of_disabled
    (disabled : running.config.preferences.enabled = false) (user : String) (request : Request)
    (host : Host) :
    ((keepPreferences { running := some running } user request).run host).2 = host := by
  rw [keepPreferences, store?_of_disabled disabled]
  cases Body.overrides request with
  | error refusal => cases refusal <;> rfl
  | ok fields => rfl

theorem onlyLogged_answer_of_disabled (disabled : running.config.preferences.enabled = false)
    (request : Request) (host : Host) :
    host.OnlyLogged (answer { running := some running } request host).2 := by
  refine Host.OnlyLogged.trans ?_ (onlyLogged_answer { running := some running } request host)
  by_cases putting : ∃ user, request.Keeps user
  · obtain ⟨user, keeps⟩ := putting
    rw [respond_of_keeps _ keeps]
    exact onlyLogged_of_eq (snd_run_keepPreferences_of_disabled disabled user request host)
  · exact onlyLogged_respond (fun user keeps => putting ⟨user, keeps⟩) host

end App

end AppletPage
