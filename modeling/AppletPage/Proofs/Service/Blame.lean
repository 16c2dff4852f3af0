import AppletPage.Proofs.Service.Session

/-! Whose errors they are that keep preferences from being kept. -/

namespace AppletPage

open Text

/-- Every surrogate is one of a pair in a body, as it is read if it is JSON. -/
def Body.isPaired (body : Bytes) : Bool :=
  let (encoding, rest) := Encoding.detect body
  encoding.holdsPairs rest && (decodeDetected? body).all Json.isPaired

/-- A request keeps preferences, and every surrogate is one of a pair in its body. -/
structure Request.KeepsPaired (request : Request) (user : String) : Prop where
  keeps : request.Keeps user
  paired : (request.contentType.map Body.isJsonType).getD false = true →
    Body.isPaired request.body = true

def Response.IsClientError (response : Response) : Prop :=
  ∃ status message details, 400 ≤ status ∧ status < 500 ∧
    response = .error status message details

/-- A directory can take the file of a user: it is there, the name of the file is not too long, and
where the file is to be there is nothing or another file. -/
structure Store.Usable (folder : Pathname) (user : String) (files : Files) : Prop where
  there : files.isDirectory folder = .ok true
  short : User.isName user = true →
    ¬ Files.nameLimit < (Utf8.encode (folder.child (temporaryName user drawn)).toText).length
  regular : User.isName user = true →
    ∀ place, files.locate folder = .present place .directory →
      ∀ node, files.get? (place ++ [fileName user]) = some node → node.IsFile

theorem Store.Usable.unkept?_eq {folder : Pathname} {user : String} {files : Files} {place : Path}
    (usable : Usable folder user files)
    (located : files.locate folder = .present place .directory) :
    unkept? folder user (files.get? (place ++ [fileName user])) =
      if User.isName user then none else some (.username ⟨some user⟩) := by
  cases named : User.isName user with
  | false =>
      rw [unkept?, named]
      rfl
  | true =>
      rw [if_pos rfl, unkept?_eq_none_iff]
      refine ⟨named, usable.short named, fun taken => ?_⟩
      exact usable.regular named place located .directory taken

namespace App

open HostAction

variable {running : Running} {host : Host} {user : String} {request : Request}

/-- The status of an answer is a success, or the answer is an error of the client. -/
def Fair (response : Response) : Prop := response.status = 200 ∨ response.IsClientError

theorem fst_answer_of_ok {response : Response} {after : Host} {app : App}
    (ran : (app.respond request).run host = (.ok response, after)) :
    (app.answer request host).1 = response := by
  obtain ⟨line, answered⟩ := answer_of_ok ran
  rw [answered]

theorem fair_of_refused {failure : Failure} {app : App}
    (user's : ∃ message details, preferenceError? failure = some (.error 422 message details))
    (ran : (app.respond request).run host = refused failure host) :
    Fair (app.answer request host).1 := by
  obtain ⟨message, details, told⟩ := user's
  rw [refused, told] at ran
  rw [fst_answer_of_ok ran]
  exact .inr ⟨422, message, details, by decide, by decide, rfl⟩

theorem not_fair_unhandled (failure : Failure) : ¬ Fair (.unhandled failure) := by
  rintro (ok | ⟨status, message, details, -, client, same⟩)
  · cases ok
  · have status : 500 = status := congrArg Response.status same
    omega

/-- A request to keep preferences is answered by them or by an error of the client, unless its body
cannot be shown in the answer. Bodies with surrogates outside of pairs are not modelled: a value
that holds one can neither be kept nor shown. -/
theorem answer_keeps {before after : Host} (done : start.run before = (.ok running, after))
    (enabled : running.config.preferences.enabled = true) (keeps : request.KeepsPaired user)
    (usable : Store.Usable running.layout.prefs user host.files) :
    let answer := (answer { running := some running } request host).1
    (Fair answer ↔ ¬ ∃ failure, Body.Unshown request failure) ∧
      ∀ failure, Body.Unshown request failure → answer = .unhandled failure := by
  have started := started_of_start done
  obtain ⟨-, place, located⟩ := Files.isDirectory_eq_true_iff.mp usable.there
  have unlinked (named : User.isName user = true) (target : String) :
      host.files.get? (place ++ [Store.fileName user]) ≠ some (.link target) :=
    fun there => usable.regular named place located (.link target) there
  have ran := run_keepPreferences (isPlain_of_start done).prefs usable.there enabled
    (store_of_started started enabled) located unlinked request
  rw [← respond_of_keeps _ keeps.keeps, usable.unkept?_eq located] at ran
  have hidden (failure : Failure) (unshown : Body.Unshown request failure) :
      (answer { running := some running } request host).1 = .unhandled failure := by
    rw [unshown.overrides_eq] at ran
    obtain ⟨line, answered⟩ := answer_of_error ran
    rw [answered]
  refine ⟨⟨?_, fun shown => ?_⟩, hidden⟩
  · rintro fair ⟨failure, unshown⟩
    rw [hidden failure unshown] at fair
    exact not_fair_unhandled failure fair
  -- The directory is not in the way: what is left are the body, its overrides and the name.
  have body := Body.overridden request
  cases read : Body.overrides request with
  | error refusal =>
      rw [read] at body ran
      cases body with
      | @answered status message details client =>
          rw [fst_answer_of_ok ran]
          exact .inr ⟨status, message, details, by omega, by omega, rfl⟩
      | unshown unshown => exact absurd ⟨_, unshown⟩ shown
  | ok fields =>
      rw [read] at ran
      dsimp only at ran
      cases valid : Overrides.validate (.object fields) with
      | error error =>
          obtain ⟨stage, violations, rfl⟩ := Overrides.rejected_of_validate valid
          rw [Store.accepted_of_invalid valid] at ran
          exact fair_of_refused ⟨_, _, rfl⟩ ran
      | ok overrides =>
          rw [Store.accepted_of_valid valid] at ran
          dsimp only at ran
          cases named : User.isName user with
          | false =>
              rw [named] at ran
              exact fair_of_refused ⟨_, _, rfl⟩ ran
          | true =>
              rw [named] at ran
              rw [fst_answer_of_ok ran]
              exact .inl rfl

def requestOfBytes : Request where
  method := "PUT"
  path := "/v1/prefs/alice"
  contentType := some (Utf8.encode "text/plain")
  body := [0xff]

/-- A body of another type that is no text brings the service to its own error. -/
theorem answer_keeps_bytes :
    ∃ running after, start.run (hostOfPage enabledPage) = (.ok running, after) ∧
      (answer { running := some running } requestOfBytes after).1.status = 500 := by
  obtain ⟨running, after, done, config, prefs, -, empty⟩ := start_enabledPage
  have enabled : running.config.preferences.enabled = true := by rw [config]; rfl
  have stands := journalStands_hostOfPage enabledPage
  have usable : Store.Usable running.layout.prefs "alice" after.files := by
    refine ⟨(housed_of_start stands done).1.prefs, fun _ => ?_, fun _ place there node found => ?_⟩
    · rw [prefs]
      decide
    · rw [empty place there] at found
      cases found
  have keeps : requestOfBytes.KeepsPaired "alice" := ⟨⟨rfl, by decide⟩, by decide⟩
  obtain ⟨failure, unshown⟩ : ∃ failure, Body.Unshown requestOfBytes failure := by
    have payload : Body.payload requestOfBytes = .ok (.bytes [0xff]) := by
      have other : (requestOfBytes.contentType.map Body.isJsonType).getD false = false := by decide
      rw [Body.payload, other]
      rfl
    exact ⟨_, .bytes payload rfl⟩
  obtain ⟨-, hidden⟩ := answer_keeps done enabled keeps usable
  refine ⟨running, after, done, ?_⟩
  rw [hidden failure unshown]
  rfl

end App

end AppletPage
