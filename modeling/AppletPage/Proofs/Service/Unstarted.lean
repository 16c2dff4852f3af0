import AppletPage.Proofs.Service.Isolation

/-! A service whose start has failed: it has no page and no preferences, and its answers depend on
nothing. -/

namespace AppletPage

open Text

namespace App

open HostAction

variable {request : Request} {response : Response} {host before after : Host} {failure : Failure}

/-- An answer of a service that is not running. Its health and what it is are told. -/
structure Unserved (request : Request) (response : Response) : Prop where
  pages : Gets request .page ∨ Gets request .parameters ∨ Gets request .plugins →
    response = .json 500 (Envelope.fail "server_error" "Applet page not initialized")
  reads : ∀ user, Gets request (.preferences user) →
    response = .json 404 (Envelope.fail "not_found" "Preferences are disabled")
  keeps : ∀ user, request.Keeps user → response.status ≠ 200
  health : Gets request .health → response.status = 200
  info : Gets request .info → response.status = 200

theorem exists_result_unstarted (request : Request) :
    ∃ result, ∀ host, (respond {} request).run host = (result, host) := by
  -- With nothing running, each case is decided before the host is looked at.
  rw [respond]
  cases Route.ofPath? request.path with
  | none =>
      dsimp only
      cases Route.redirection? request <;> exact ⟨_, fun host => rfl⟩
  | some route =>
      dsimp only
      by_cases allowed : request.method ∈ route.methods
      · rw [if_pos allowed]
        cases route with
        | preferences user =>
            rw [answerRoute]
            split
            · rw [keepPreferences]
              cases Body.overrides request with
              | error refusal => cases refusal <;> exact ⟨_, fun host => rfl⟩
              | ok fields => exact ⟨_, fun host => rfl⟩
            · exact ⟨_, fun host => rfl⟩
        | _ => exact ⟨_, fun host => rfl⟩
      · rw [if_neg allowed]
        exact ⟨_, fun host => rfl⟩

theorem unserved_answer (request : Request) (host : Host) :
    Unserved request (answer {} request host).1 where
  pages := by
    rintro (gets | gets | gets) <;> rw [answer, respond_of_gets _ gets] <;> rfl
  reads := fun user gets => answer_reads_of_closed rfl gets host
  keeps := fun user keeps => status_keeps_of_closed rfl keeps host
  health := fun gets => by rw [answer, respond_of_gets _ gets]; rfl
  info := fun gets => by rw [answer, respond_of_gets _ gets]; rfl

/-! Any requests. -/

theorem forall_exchanges {app : App} (told : Request → Response → Prop)
    (answered : ∀ request host, told request (app.answer request host).1) (requests : List Request)
    (host : Host) : ∀ exchange ∈ (exchanges app requests host).1, told exchange.1 exchange.2 := by
  induction requests generalizing host with
  | nil => exact nofun
  | cons request rest ih =>
      exact List.forall_mem_cons.mpr ⟨answered request host, ih (app.answer request host).2⟩

theorem onlyLogged_exchanges {app : App}
    (lines : ∀ request (host : Host), host.OnlyLogged (app.answer request host).2)
    (requests : List Request) (host : Host) :
    host.OnlyLogged (exchanges app requests host).2 := by
  induction requests generalizing host with
  | nil => exact .refl host
  | cons request rest ih => exact (lines request host).trans (ih (app.answer request host).2)

theorem launch_of_failed (failed : start.run before = (.error failure, after)) :
    launch before = ({}, after) := by
  rw [launch, failed]

/-- After a start that fails, whatever its failure, no request is served with a page or preferences:
each is answered alike on every host. As long as the journal has room, no more is done than lines
added at its end. -/
theorem answer_unstarted (failed : start.run before = (.error failure, after))
    (requests : List Request) :
    let app := (launch before).1
    let done := exchanges app requests (launch before).2
    (∀ exchange ∈ done.1,
        Unserved exchange.1 exchange.2 ∧ Indifferent app exchange.1 exchange.2) ∧
      (done.2.hasRoom = true → after.OnlyLogged done.2) := by
  rw [launch_of_failed failed]
  dsimp only
  have indifferent (request : Request) (host : Host) :
      Indifferent {} request (answer {} request host).1 := by
    obtain ⟨result, ran⟩ := exists_result_unstarted request
    obtain ⟨response, same⟩ := exists_indifferent ran
    rw [same host]
    exact same
  have answered (request : Request) (host : Host) :=
    And.intro (unserved_answer request host) (indifferent request host)
  refine ⟨forall_exchanges
    (fun request response => Unserved request response ∧ Indifferent {} request response)
    answered requests after, fun _ => ?_⟩
  refine onlyLogged_exchanges (fun request host => ?_) requests after
  obtain ⟨result, ran⟩ := exists_result_unstarted request
  have lines := onlyLogged_answer {} request host
  rwa [ran host] at lines

def hostOfDoubledBoard : Host :=
  { hostOfJournalLink with
    files :=
      { nodes :=
          hostOfJournalLink.files.nodes ++
            [(["home", "config"], .directory),
             (["home", "config", "page.json"],
              .file (Utf8.encode "\x7b\"applet\": \x7b\"boards\": [\"a\", \"a\"]\x7d\x7d"))] } }

def pageRequest : Request := { method := "GET", path := "/applet" }

theorem start_hostOfDoubledBoard :
    ∃ failure after, start.run hostOfDoubledBoard = (.error failure, after) ∧
      (answer {} pageRequest after).2.hasRoom = true ∧
      (answer {} pageRequest after).2.files.read
          (Pathname.ofAbsolute ["home", "prefs", "alice.json"]) ≠
        after.files.read (Pathname.ofAbsolute ["home", "prefs", "alice.json"]) := by
  have observed : ((start.run hostOfDoubledBoard).1.toOption.isNone &&
      (answer {} pageRequest (start.run hostOfDoubledBoard).2).2.hasRoom &&
      ((answer {} pageRequest (start.run hostOfDoubledBoard).2).2.files.read
          (Pathname.ofAbsolute ["home", "prefs", "alice.json"])).toOption ≠
        ((start.run hostOfDoubledBoard).2.files.read
          (Pathname.ofAbsolute ["home", "prefs", "alice.json"])).toOption) = true := by
    decide +kernel
  generalize start.run hostOfDoubledBoard = outcome at observed ⊢
  obtain ⟨observed, differs⟩ := Bool.and_eq_true_iff.mp observed
  obtain ⟨failed, room⟩ := Bool.and_eq_true_iff.mp observed
  obtain ⟨result, after⟩ := outcome
  cases result with
  | ok running => cases failed
  | error failure =>
      exact ⟨failure, after, rfl, room, fun same =>
        of_decide_eq_true differs (congrArg Except.toOption same)⟩

/-- A service with a board named twice serves no page, and tells of it in the journal. -/
theorem answer_unstarted_doubled :
    ∃ failure after, start.run hostOfDoubledBoard = (.error failure, after) ∧
      (answer (launch hostOfDoubledBoard).1 pageRequest after).1 =
        .json 500 (Envelope.fail "server_error" "Applet page not initialized") ∧
      after.OnlyLogged (answer (launch hostOfDoubledBoard).1 pageRequest after).2 := by
  obtain ⟨failure, after, failed, room, -⟩ := start_hostOfDoubledBoard
  obtain ⟨answered, lines⟩ := answer_unstarted failed [pageRequest]
  obtain ⟨unserved, -⟩ := answered _ List.mem_cons_self
  have gets : Gets pageRequest .page := ⟨rfl, by decide⟩
  rw [launch_of_failed failed] at unserved lines ⊢
  exact ⟨failure, after, failed, unserved.pages (.inl gets), lines room⟩

/-- Where the journal leads to the file of a user, a request to a service whose start has failed
changes that file. -/
theorem not_answer_unstarted :
    ∃ failure after, start.run hostOfDoubledBoard = (.error failure, after) ∧
      let file := Pathname.ofAbsolute ["home", "prefs", "alice.json"]
      (answer (launch hostOfDoubledBoard).1 pageRequest after).2.files.read file ≠
        after.files.read file := by
  obtain ⟨failure, after, failed, -, differs⟩ := start_hostOfDoubledBoard
  rw [launch_of_failed failed]
  exact ⟨failure, after, failed, differs⟩

end App

end AppletPage
