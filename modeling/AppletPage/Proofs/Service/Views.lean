import AppletPage.Proofs.Command.Export
import AppletPage.Proofs.Page.RoundTrip
import AppletPage.Proofs.Service.Session

/-! The views of the usual parameters: the page, the lists of its parameters and its plugins, and
what the command writes. They agree, whatever requests there have been. -/

namespace AppletPage

open Text

namespace App

open HostAction

variable {running : Running} {host after : Host} {user : String} {request : Request}

/-! The answers. -/

/-- A request names a user, with or without blanks around the name; the empty name is nobody's. -/
def Names (request : Request) (user : String) : Prop :=
  trim ((request.parameter? "user").getD "") = user

def pageResponse : Except Failure Page → Response
  | .ok page => .html page.text
  | .error (.username invalid) => .error 422 invalid.message
  | .error failure => .unhandled failure

theorem answer_page_of_pageFor {outcome : Except Failure Page} (gets : Gets request .page)
    (names : Names request user) (ran : ((pageFor running user).run host).1 = outcome) :
    (answer { running := some running } request host).1 = pageResponse outcome := by
  rw [answer, respond_of_gets _ gets, answerRoute, whenRunning]
  dsimp only
  rw [answerPage, names, run_tryCatch, run_bind]
  cases paged : (pageFor running user).run host with
  | mk result between =>
      rw [paged] at ran
      subst ran
      cases result with
      | ok page => rfl
      | error failure => cases failure <;> rfl

theorem pageFor_usual (usual : running.config.preferences.enabled = false ∨ user = "") :
    pageFor running user = (return running.page : HostAction Page) := by
  rw [pageFor, if_pos]
  simpa using usual

theorem answer_page (gets : Gets request .page) (names : Names request user)
    (usual : running.config.preferences.enabled = false ∨ user = "") (host : Host) :
    (answer { running := some running } request host).1 = .html running.page.text := by
  have ran : ((pageFor running user).run host).1 = .ok running.page := by
    rw [pageFor_usual usual, run_pure]
  exact answer_page_of_pageFor gets names ran

def listOf (items : List Json) : Response :=
  .ok (.object [("count", .ofNat items.length), ("items", .array items)])

theorem answer_parameters (gets : Gets request .parameters) (host : Host) :
    (answer { running := some running } request host).1 =
      listOf (running.page.parameters.entries.map parameterItem) := by
  have ran : (respond { running := some running } request).run host =
      (.ok (answerParameters running), host) := by
    rw [respond_of_gets _ gets]
    rfl
  obtain ⟨line, answered⟩ := answer_of_ok ran
  rw [answered, answerParameters, listOf, List.length_map]

def pluginItem (plugin : String × Nat) : Json :=
  .object
    [("index", .ofNat plugin.2), ("classname", .string plugin.1),
     ("short_name", .string (Plugin.shortName plugin.1))]

theorem pluginItems_eq (index : Nat) (names : List String) :
    pluginItems index names = (names.zipIdx index).map pluginItem := by
  induction names generalizing index with
  | nil => rfl
  | cons name rest ih =>
      rw [pluginItems, ih, List.zipIdx_cons, List.map_cons]
      rfl

theorem answer_plugins {names : List String} (gets : Gets request .plugins)
    (listed : running.page.parameters.plugins = .ok names) (host : Host) :
    (answer { running := some running } request host).1 =
      listOf (names.zipIdx.map pluginItem) := by
  have ran : (respond { running := some running } request).run host =
      (.ok (listOf (names.zipIdx.map pluginItem)), host) := by
    rw [respond_of_gets _ gets, answerRoute, whenRunning]
    dsimp only
    rw [answerPlugins, listed, run_bind, run_ofExcept_ok, listOf, List.length_map,
      List.length_zipIdx, ← pluginItems_eq]
    rfl
  obtain ⟨line, answered⟩ := answer_of_ok ran
  rw [answered]

/-! What the command writes. -/

/-- The file of the configuration is as it was when the service read it. -/
def PageKept (running : Running) (before later : Host) : Prop :=
  let file := (Layout.ofHome running.layout.home).configFile
  let reading := ((Layout.ensure running.layout.home).run before).2
  later.files.exists file = reading.files.exists file ∧
    later.files.read file = reading.files.read file

/-- A command writes a text, or lists the parameters and the plugins that are read from it. -/
structure Emits (arguments : List String) (options : Command.Options) (text : String)
    (set : ParameterSet) (names : List String) (host : Host) : Prop where
  printed : options.listParameters = false → options.out = none →
    ((Command.run arguments).run host).1 = .ok (.done text)
  written : options.listParameters = false → ∀ out, options.out = some (.text out) →
    ∀ outcome after, (Command.run arguments).run host = (.ok outcome, after) →
      after.files.read (Pathname.ofText out) = .ok (Utf8.encode text)
  listed : options.listParameters = true →
    ∃ listing, ((Command.run arguments).run host).1 = .ok (.done listing) ∧
      Json.read listing =
        .ok (.object
          [("parameters", .array (set.entries.map parameterItem)), ("plugins", .strings names)])

theorem emits_of_exports {arguments : List String} {options : Command.Options} {home : Pathname}
    {config : Config} {page : Page} {names : List String}
    (parsed : Command.parse arguments = .ok (.run options))
    (exports : Command.Exports options home config page host)
    (listed : page.parameters.plugins = .ok names) :
    Emits arguments options page.text page.parameters names host where
  printed noList noPlace := by rw [Command.run_page parsed exports noList noPlace]
  written noList out placed outcome after ran :=
    (Command.read_of_run parsed exports noList placed ran).2
  listed list := by
    rw [Command.run_list parsed exports list listed]
    exact ⟨_, rfl, Command.read_parameterListing page names⟩

/-- All views of the usual parameters agree and stay as they are, whatever requests there have been.
The command agrees with them as long as its home and the configuration are those of the service and
the journal has room, provided that no user's file was a link: where one leads on to a directory of
the home, a request that keeps preferences takes that directory away. -/
theorem views_agree {before : Host} (stands : before.JournalStands)
    (starts : StartsPaired before running after) :
    ∃ text set names, Page.parse text = .ok set ∧ set.plugins = .ok names ∧
      ∀ requests : List Request,
        let app : App := { running := some running }
        let later := (exchanges app requests after).2
        (∀ request, Gets request .page → Names request "" →
            (app.answer request later).1 = .html text) ∧
          (∀ request, Gets request .parameters →
            (app.answer request later).1 = listOf (set.entries.map parameterItem)) ∧
          (∀ request, Gets request .plugins →
            (app.answer request later).1 = listOf (names.zipIdx.map pluginItem)) ∧
          (Unlinked running after → PageKept running before later → later.hasRoom = true →
            ∀ arguments options, Command.parse arguments = .ok (.run options) →
              Command.homeOf options later = .ok running.layout.home →
              Emits arguments options text set names later) := by
  have started := started_of_start starts.done
  obtain ⟨names, listed⟩ := started.plugins
  obtain ⟨housed, reading, ensured, loaded⟩ := housed_of_start stands starts.done
  have read : Page.parse running.page.text = .ok running.page.parameters := by
    rw [Page.parse_text_eq]
    exact Page.parseChars_chars running.page
  refine ⟨running.page.text, running.page.parameters, names, read, listed,
    fun requests => ⟨fun request gets nobody => answer_page gets nobody (.inr rfl) _,
      fun request gets => answer_parameters gets _,
      fun request gets => answer_plugins gets listed _, ?_⟩⟩
  intro unlinked kept _ arguments options parsed named
  -- The command reads what the service has read, and builds its page as the service has.
  rw [PageKept, ensured] at kept
  have lasting := housed_exchanges started housed unlinked requests
  exact emits_of_exports parsed
    { named
      plain := lasting.plain.home
      stands := lasting.usual
      loaded := Layout.run_loadConfig_eq_ok loaded kept.1 kept.2
      built := started.built }
    listed

/-- Whether a command without options finds the home of a service, and the configuration as it was
when the service read it. -/
def findsPage (page : String) (before later : Host) (running : Running) : Bool :=
  let file := (Layout.ofHome running.layout.home).configFile
  let reading := ((Layout.ensure running.layout.home).run before).2
  (Command.homeOf {} later).toOption = some running.layout.home &&
    (later.files.exists file).toOption = some true &&
    (reading.files.exists file).toOption = some true &&
    (later.files.read file).toOption = some (Utf8.encode page) &&
    (reading.files.read file).toOption = some (Utf8.encode page)

theorem pageKept_of_findsPage {page : String} {before later : Host}
    (finds : findsPage page before later running = true) :
    PageKept running before later ∧ Command.homeOf {} later = .ok running.layout.home := by
  simp only [findsPage, Bool.and_eq_true, decide_eq_true_eq] at finds
  obtain ⟨⟨⟨⟨home, there⟩, was⟩, content⟩, had⟩ := finds
  refine ⟨⟨?_, ?_⟩, eq_ok_of_toOption home⟩
  · rw [eq_ok_of_toOption there, eq_ok_of_toOption was]
  · rw [eq_ok_of_toOption content, eq_ok_of_toOption had]

/-- After a user has kept preferences, the command still prints the page that the service shows. -/
theorem views_agree_alice :
    ∃ running after, start.run (hostOfPage enabledPage) = (.ok running, after) ∧
      let later := (exchanges { running := some running } sessionOfAlice after).2
      ∃ text,
        (answer { running := some running } { method := "GET", path := "/applet" } later).1 =
          .html text ∧
        ((Command.run []).run later).1 = .ok (.done text) := by
  have observed : ((start.run (hostOfPage enabledPage)).1.toOption.map fun running =>
      let later := (exchanges { running := some running } sessionOfAlice
        (start.run (hostOfPage enabledPage)).2).2
      (findsPage enabledPage (hostOfPage enabledPage) later running, later.hasRoom,
        readsPaired running (hostOfPage enabledPage))) = some (true, true, true) := by
    decide +kernel
  obtain ⟨running, after, done, -, -, -, empty⟩ := start_enabledPage
  rw [done] at observed
  simp only [Except.toOption, Option.map_some, Option.some.injEq, Prod.mk.injEq] at observed
  obtain ⟨finds, room, paired⟩ := observed
  obtain ⟨kept, home⟩ := pageKept_of_findsPage finds
  have unlinked : Unlinked running after := by
    intro _ place there user _ target
    rw [empty place there]
    exact (Option.some_ne_none _).symm
  obtain ⟨text, set, names, -, -, views⟩ :=
    views_agree (journalStands_hostOfPage enabledPage) ⟨done, paired⟩
  obtain ⟨page, -, -, command⟩ := views sessionOfAlice
  have parsed : Command.parse [] = .ok (.run {}) := rfl
  have gets : Gets { method := "GET", path := "/applet" } .page := ⟨rfl, by decide⟩
  have nobody : Names { method := "GET", path := "/applet" } "" := by
    rw [Names]
    decide
  exact ⟨running, after, done, text, page _ gets nobody,
    (command unlinked kept room [] {} parsed home).printed rfl rfl⟩

def pageOfLinks : String :=
  "\x7b\"prefs\": \x7b\"enabled\": true\x7d, \"paths\": \x7b\"prefs_dir\": \".\"\x7d\x7d"

def hostOfLinks : Host where
  files :=
    { nodes :=
        [(["home"], .directory), (["home", "config"], .directory),
         (["home", "config", "page.json"], .file (Utf8.encode pageOfLinks)),
         (["home", "journals"], .directory), (["home", "x.json"], .link "journals"),
         (["home", "logs"], .link "x.json")] }
  environment := [("JINPAGE_HOME", "/home")]

def requestOfLink : Request :=
  { requestOfAlice "PUT" "\x7b\"overrides\": \x7b\x7d\x7d" with path := "/v1/prefs/x" }

/-- Where the journal's directory is reached through the entry of a user, keeping preferences of the
user takes the home away from the command. -/
theorem not_views_agree :
    ∃ running after, start.run hostOfLinks = (.ok running, after) ∧
      let later := (exchanges { running := some running } [requestOfLink] after).2
      PageKept running hostOfLinks later ∧ Command.homeOf {} later = .ok running.layout.home ∧
        Command.parse [] = .ok (.run {}) ∧
          ∀ outcome, ((Command.run []).run later).1 ≠ .ok outcome := by
  have observed : ((start.run hostOfLinks).1.toOption.map fun running =>
      findsPage pageOfLinks hostOfLinks
          (exchanges { running := some running } [requestOfLink] (start.run hostOfLinks).2).2
          running &&
        ((Command.run []).run (exchanges { running := some running } [requestOfLink]
          (start.run hostOfLinks).2).2).1.toOption.isNone) = some true := by
    decide +kernel
  -- The entry is a link to a directory at the start, and a file once the user has kept something.
  obtain ⟨running, done, observed⟩ := exists_start_of_map observed
  obtain ⟨finds, fails⟩ := Bool.and_eq_true_iff.mp observed
  obtain ⟨kept, home⟩ := pageKept_of_findsPage finds
  refine ⟨running, _, done, kept, home, rfl, fun outcome ran => ?_⟩
  rw [ran] at fails
  cases fails

end App

end AppletPage
