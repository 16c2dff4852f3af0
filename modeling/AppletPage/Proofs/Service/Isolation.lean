import AppletPage.Proofs.Service.Views

/-! What a user is answered depends on no other user's file, and on no file at all where users have
no preferences. -/

namespace AppletPage

open Text

/-- What is loaded for a user is the same from two hosts that hold the same for the user. -/
theorem Store.exists_loaded {folder : Pathname} {user : String} {place : Path} {a b : Host}
    (absolute : folder.isAbsolute = true) (noZero : Files.hasZero folder = false)
    (locatedA : a.files.locate folder = .present place .directory)
    (locatedB : b.files.locate folder = .present place .directory)
    (same : b.files.get? (place ++ [fileName user]) = a.files.get? (place ++ [fileName user]))
    (regular : ∀ node, a.files.get? (place ++ [fileName user]) = some node → node.IsFile) :
    ∃ loaded, (load (.directory folder) (some user)).run a = (loaded, a) ∧
      (load (.directory folder) (some user)).run b = (loaded, b) := by
  have thereA := Files.isDirectory_eq_true_iff.mpr ⟨noZero, place, locatedA⟩
  have thereB := Files.isDirectory_eq_true_iff.mpr ⟨noZero, place, locatedB⟩
  cases named : User.isName user with
  | false => exact ⟨_, run_load_unnamed named a, run_load_unnamed named b⟩
  | true =>
      by_cases long : Files.nameLimit < (Utf8.encode (folder.child (fileName user)).toText).length
      · exact ⟨_, run_load_long named thereA long, run_load_long named thereB long⟩
      · obtain ⟨content?, held⟩ : ∃ content? : Option Bytes,
            a.files.get? (place ++ [fileName user]) = content?.map Node.file := by
          cases found : a.files.get? (place ++ [fileName user]) with
          | none => exact ⟨none, rfl⟩
          | some node =>
              cases node with
              | file content => exact ⟨some content, rfl⟩
              | directory => exact (regular _ found).elim
              | link target => exact (regular _ found).elim
        exact ⟨_, run_load_child named (.inl absolute) thereA locatedA long held,
          run_load_child named (.inl absolute) thereB locatedB long (same.trans held)⟩

namespace App

open HostAction

variable {running : Running} {host : Host} {user : String} {request : Request}

/-! Where users have no preferences. -/

theorem exists_result_of_disabled (started : Started running)
    (disabled : running.config.preferences.enabled = false) (request : Request) :
    ∃ result, ∀ host, (respond { running := some running } request).run host = (result, host) := by
  obtain ⟨names, listed⟩ := started.plugins
  rw [respond]
  cases Route.ofPath? request.path with
  | none =>
      dsimp only
      cases Route.redirection? request <;> exact ⟨_, fun host => rfl⟩
  | some route =>
      dsimp only
      by_cases allowed : request.method ∈ route.methods
      · rw [if_pos allowed]
        cases route with
        | page =>
            refine ⟨.ok (.html running.page.text), fun host => ?_⟩
            rw [answerRoute, whenRunning]
            dsimp only
            rw [answerPage, pageFor_usual (.inl disabled)]
            rfl
        | plugins =>
            refine ⟨.ok (.ok (.object [("count", .ofNat names.length),
              ("items", .array (pluginItems 0 names))])), fun host => ?_⟩
            rw [answerRoute, whenRunning]
            dsimp only
            rw [answerPlugins, listed]
            rfl
        | preferences user =>
            rw [answerRoute]
            split
            · rw [keepPreferences, store?_of_disabled disabled]
              cases Body.overrides request with
              | error refusal => cases refusal <;> exact ⟨_, fun host => rfl⟩
              | ok fields => exact ⟨_, fun host => rfl⟩
            · rw [readPreferences, store?_of_disabled disabled]
              exact ⟨_, fun host => rfl⟩
        | _ => exact ⟨_, fun host => rfl⟩
      · rw [if_neg allowed]
        exact ⟨_, fun host => rfl⟩

/-- An answer that is the same on every host. -/
def Indifferent (app : App) (request : Request) (response : Response) : Prop :=
  ∀ host, (app.answer request host).1 = response

theorem exists_indifferent {app : App} {result : Except Failure Response}
    (ran : ∀ host, (app.respond request).run host = (result, host)) :
    ∃ response, Indifferent app request response := by
  cases result with
  | ok response => exact ⟨response, fun host => by rw [answer, ran host]⟩
  | error failure => exact ⟨.unhandled failure, fun host => by rw [answer, ran host]⟩

theorem exists_indifferent_of_disabled (started : Started running)
    (disabled : running.config.preferences.enabled = false) (request : Request) :
    ∃ response, Indifferent { running := some running } request response := by
  obtain ⟨result, ran⟩ := exists_result_of_disabled started disabled request
  exact exists_indifferent ran

theorem answer_reads_of_closed {app : App} (closed : app.store? = none)
    (gets : Gets request (.preferences user)) (host : Host) :
    (app.answer request host).1 = noPreferences := by
  have other : ¬ request.method = "PUT" := by
    rw [gets.1]
    decide
  rw [answer, respond_of_gets _ gets, answerRoute, if_neg other, readPreferences, closed]
  rfl

theorem status_keeps_of_closed {app : App} (closed : app.store? = none)
    (keeps : request.Keeps user) (host : Host) : (app.answer request host).1.status ≠ 200 := by
  have body := Body.overridden request
  rw [answer, respond_of_keeps _ keeps, keepPreferences, closed]
  cases read : Body.overrides request with
  | ok fields => exact (by decide : (404 : Nat) ≠ 200)
  | error refusal =>
      rw [read] at body
      cases body with
      | @answered status message details client =>
          change status ≠ 200
          omega
      | unshown unshown => exact (by decide : (500 : Nat) ≠ 200)

theorem status_of_closed {app : App} (closed : app.store? = none)
    (toPreferences : Route.ofPath? request.path = some (.preferences user)) (host : Host) :
    (app.answer request host).1.status ≠ 200 := by
  by_cases get : request.method = "GET"
  · rw [answer_reads_of_closed closed ⟨get, toPreferences⟩]
    decide
  by_cases put : request.method = "PUT"
  · exact status_keeps_of_closed closed ⟨put, toPreferences⟩ host
  have refused : request.method ∉ (Route.preferences user).methods := by
    rw [Route.methods, List.mem_cons, List.mem_singleton]
    exact not_or.mpr ⟨get, put⟩
  rw [answer, respond, toPreferences]
  dsimp only
  rw [if_neg refused]
  exact (by decide : (405 : Nat) ≠ 200)

/-! Two services. -/

/-- Two hosts have the directory of the users' files at one place, and in it the same for a user: no
file or the same one. -/
structure SameFor (folder : Pathname) (place : Path) (user : String) (a b : Host) : Prop where
  first : a.files.locate folder = .present place .directory
  second : b.files.locate folder = .present place .directory
  same : b.files.get? (place ++ [Store.fileName user]) =
    a.files.get? (place ++ [Store.fileName user])
  regular : ∀ node, a.files.get? (place ++ [Store.fileName user]) = some node → node.IsFile

theorem page_eq_of_config {a b : Running} (startedA : Started a) (startedB : Started b)
    (config : b.config = a.config) : b.page = a.page := by
  have built := startedB.built
  rw [config, startedA.built] at built
  exact (Except.ok.inj built).symm

theorem hasZero_of_start {before after : Host} (done : start.run before = (.ok running, after)) :
    Files.hasZero running.layout.prefs = false := by
  obtain ⟨prepared, ran⟩ := prepare_of_start done
  obtain ⟨-, -, -, -, prefs, -⟩ := housed_of_prepare ran
  exact (Files.isDirectory_eq_true_iff.mp prefs).1

theorem pageOutcome_eq_of_page {a b : Running} (page : b.page = a.page)
    (loaded : Except Failure Overrides) : pageOutcome b loaded = pageOutcome a loaded := by
  cases loaded <;> rw [pageOutcome, pageOutcome, page]

/-- Users are isolated from each other. Where they have preferences, two services with the same
configuration answer what concerns a user alike as long as they find the same file for the user,
whatever else they find. Where users have none, the page is the same for all requests and all hosts,
the users' routes give nothing, and no answer depends on a file. As long as the journal has room, an
answer does no more than add lines at its end. -/
theorem isolation {beforeA afterA beforeB afterB : Host} {a b : Running}
    (doneA : start.run beforeA = (.ok a, afterA)) (doneB : start.run beforeB = (.ok b, afterB))
    (config : b.config = a.config) :
    let appA : App := { running := some a }
    let appB : App := { running := some b }
    (a.config.preferences.enabled = true → b.layout.prefs = a.layout.prefs →
      ∀ hostA hostB place user, SameFor a.layout.prefs place user hostA hostB →
        (∀ request, Gets request (.preferences user) →
            (appA.answer request hostA).1 = (appB.answer request hostB).1) ∧
          ∀ request, Gets request .page → Names request user →
            (appA.answer request hostA).1 = (appB.answer request hostB).1) ∧
      (a.config.preferences.enabled = false →
        (∀ requestA requestB hostA hostB, Gets requestA .page → Gets requestB .page →
            (appA.answer requestA hostA).1 = (appB.answer requestB hostB).1) ∧
          (∀ request user host, Gets request (.preferences user) →
            (appA.answer request host).1 = noPreferences) ∧
          (∀ request user host, Route.ofPath? request.path = some (.preferences user) →
            (appA.answer request host).1.status ≠ 200) ∧
          (∀ request, ∃ response, Indifferent appA request response) ∧
          ∀ request (host : Host), (appA.answer request host).2.hasRoom = true →
            host.OnlyLogged (appA.answer request host).2) := by
  have startedA := started_of_start doneA
  have startedB := started_of_start doneB
  have page := page_eq_of_config startedA startedB config
  refine ⟨fun enabled prefs hostA hostB place user same => ?_, fun disabled => ⟨?_, ?_, ?_, ?_, ?_⟩⟩
  · have enabledB : b.config.preferences.enabled = true := by rw [config, enabled]
    obtain ⟨loaded, loadA, loadB⟩ := Store.exists_loaded (isPlain_of_start doneA).prefs.absolute
      (hasZero_of_start doneA) same.first same.second same.same same.regular
    refine ⟨fun request gets => ?_, fun request gets names => ?_⟩
    · rw [answer_reads startedA enabled gets loadA,
        answer_reads startedB enabledB gets (by rw [prefs]; exact loadB)]
    · by_cases nobody : user = ""
      · subst nobody
        rw [answer_page gets names (.inr rfl), answer_page gets names (.inr rfl), page]
      · have ranA := run_pageFor enabled nobody
          (by rw [store_of_started startedA enabled]; exact loadA)
        have ranB := run_pageFor enabledB nobody
          (by rw [store_of_started startedB enabledB, prefs]; exact loadB)
        rw [answer_page_of_pageFor gets names ranA, answer_page_of_pageFor gets names ranB,
          pageOutcome_eq_of_page page]
  · intro requestA requestB hostA hostB getsA getsB
    have disabledB : b.config.preferences.enabled = false := by rw [config, disabled]
    rw [answer_page getsA rfl (.inl disabled), answer_page getsB rfl (.inl disabledB), page]
  · exact fun request user host gets =>
      answer_reads_of_closed (store?_of_disabled disabled) gets host
  · exact fun request user host toPreferences =>
      status_of_closed (store?_of_disabled disabled) toPreferences host
  · exact fun request => exists_indifferent_of_disabled startedA disabled request
  · exact fun request host _ => onlyLogged_answer_of_disabled disabled request host

def hostOfBob : Host where
  files :=
    { nodes :=
        (hostOfPage enabledPage).files.nodes ++
          [(["home", "prefs"], .directory),
           (["home", "prefs", "bob.json"], .file (Utf8.encode "\x7b\x7d"))] }
  environment := [("JINPAGE_HOME", "/home")]

theorem start_hostOfBob :
    ∃ running after, start.run hostOfBob = (.ok running, after) ∧
      running.config = enabledConfig ∧
      running.layout.prefs = ⟨.single, ["home", "prefs"]⟩ ∧
      after.files.locate running.layout.prefs = .present ["home", "prefs"] .directory ∧
      after.files.get? ["home", "prefs", "alice.json"] = none := by
  have service : ((start.run hostOfBob).1.toOption.map
      fun running => (running.config, running.layout.prefs)) =
      some (enabledConfig, ⟨.single, ["home", "prefs"]⟩) := by
    decide +kernel
  have files : ((start.run hostOfBob).2.files.locate ⟨.single, ["home", "prefs"]⟩,
      (start.run hostOfBob).2.files.get? ["home", "prefs", "alice.json"]) =
      (.present ["home", "prefs"] .directory, none) := by
    decide +kernel
  obtain ⟨running, done, service⟩ := exists_start_of_map service
  obtain ⟨config, prefs⟩ := Prod.mk.inj service
  obtain ⟨located, missing⟩ := Prod.mk.inj files
  exact ⟨running, _, done, config, prefs, by rw [prefs, located], missing⟩

theorem start_usualPage :
    ∃ running after, start.run (hostOfPage "\x7b\x7d") = (.ok running, after) ∧
      running.config.preferences.enabled = false ∧
      (answer { running := some running } (requestOfAlice "GET" "") after).2.hasRoom = true := by
  have service : ((start.run (hostOfPage "\x7b\x7d")).1.toOption.map fun running =>
      (running.config.preferences.enabled,
        (answer { running := some running } (requestOfAlice "GET" "")
          (start.run (hostOfPage "\x7b\x7d")).2).2.hasRoom)) = some (false, true) := by
    decide +kernel
  obtain ⟨running, done, service⟩ := exists_start_of_map service
  obtain ⟨disabled, room⟩ := Prod.mk.inj service
  exact ⟨running, _, done, disabled, room⟩

/-- Alice is answered alike whether there are preferences of Bob or not, and finds none where users
have none, with a line in the journal. -/
theorem isolation_alice :
    (∃ a b afterA afterB, start.run (hostOfPage enabledPage) = (.ok a, afterA) ∧
      start.run hostOfBob = (.ok b, afterB) ∧
      (answer { running := some a } (requestOfAlice "GET" "") afterA).1 =
        (answer { running := some b } (requestOfAlice "GET" "") afterB).1) ∧
    ∃ running after, start.run (hostOfPage "\x7b\x7d") = (.ok running, after) ∧
      (answer { running := some running } (requestOfAlice "GET" "") after).1 = noPreferences ∧
      after.OnlyLogged (answer { running := some running } (requestOfAlice "GET" "") after).2 := by
  have gets : Gets (requestOfAlice "GET" "") (.preferences "alice") := ⟨rfl, by decide⟩
  refine ⟨?_, ?_⟩
  · obtain ⟨a, afterA, doneA, configA, prefsA, locatedA, empty⟩ := start_enabledPage
    obtain ⟨b, afterB, doneB, configB, prefsB, locatedB, missingB⟩ := start_hostOfBob
    have missingA : afterA.files.get? (["home", "prefs"] ++ [Store.fileName "alice"]) = none :=
      empty _ locatedA _
    have enabled : a.config.preferences.enabled = true := by rw [configA]; rfl
    obtain ⟨isolated, -⟩ := isolation doneA doneB (configB.trans configA.symm)
    obtain ⟨reads, -⟩ := isolated enabled (prefsB.trans prefsA.symm) afterA afterB _ "alice"
      { first := locatedA
        second := by rw [prefsA, ← prefsB]; exact locatedB
        same := missingA ▸ missingB
        regular := fun node found => by rw [missingA] at found; cases found }
    exact ⟨a, b, afterA, afterB, doneA, doneB, reads _ gets⟩
  · obtain ⟨running, after, done, disabled, room⟩ := start_usualPage
    obtain ⟨-, closed⟩ := isolation done done rfl
    obtain ⟨-, missing, -, -, lines⟩ := closed disabled
    exact ⟨running, after, done, missing _ _ after gets, lines _ after room⟩

/-- A host whose journal leads to the file of a user. -/
def hostOfJournalLink : Host where
  files :=
    { nodes :=
        [(["home"], .directory), (["home", "logs"], .directory),
         (["home", "logs", "jinpage.log"], .link "../prefs/alice.json"),
         (["home", "prefs"], .directory),
         (["home", "prefs", "alice.json"], .file (Utf8.encode "\x7b\x7d"))] }
  environment := [("JINPAGE_HOME", "/home")]

/-- Where the journal leads to the file of a user, any request changes that file, also where users
have no preferences. -/
theorem not_isolation :
    ∃ running after, start.run hostOfJournalLink = (.ok running, after) ∧
      running.config.preferences.enabled = false ∧
      let file := running.layout.prefs.child (Store.fileName "alice")
      let answered :=
        answer { running := some running } { method := "GET", path := "/applet" } after
      answered.2.files.read file ≠ after.files.read file := by
  have differs : ((start.run hostOfJournalLink).1.toOption.map fun running =>
      !running.config.preferences.enabled &&
        ((answer { running := some running } { method := "GET", path := "/applet" }
          (start.run hostOfJournalLink).2).2.files.read
            (running.layout.prefs.child (Store.fileName "alice"))).toOption ≠
          ((start.run hostOfJournalLink).2.files.read
            (running.layout.prefs.child (Store.fileName "alice"))).toOption) = some true := by
    decide +kernel
  obtain ⟨running, done, differs⟩ := exists_start_of_map differs
  obtain ⟨disabled, differs⟩ := Bool.and_eq_true_iff.mp differs
  refine ⟨running, _, done, by simpa using disabled, fun same => ?_⟩
  exact of_decide_eq_true differs (congrArg Except.toOption same)

end App

end AppletPage
