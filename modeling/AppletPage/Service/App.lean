import AppletPage.Page.Render
import AppletPage.Preference.Store
import AppletPage.Service.Body
import AppletPage.Service.Route

/-! The service: its start, and its answers to requests. Nothing of it is there before the whole
start has been done. -/

namespace AppletPage

open Text

def version : String := "0.1.0"

def serviceTitle : String := "JinPage"

structure Running where
  layout : Layout
  config : Config
  page : Page
  store : Store

/-- A service; it is running once its start has been done. -/
structure App where
  running : Option Running := none

namespace App

def source : String := "jinpage.app"

def pageSource : String := "jinpage.ui.router"

def journalName : String := "jinpage.log"

def journalLimit (config : Config) : Nat := (config.logging.maxSize * 1024 * 1024).toNat

/-! The start. -/

def prepare : HostAction (Layout × Config) := do
  let home ← HostAction.ofExcept Failure.file (Home.ofEnvironment (← get))
  let layout ← Layout.ensure home
  let config ← Layout.loadConfig layout
  let layout ← Layout.configured layout config
  return (layout, config)

def start : HostAction Running := do
  let (layout, config) ← prepare
  HostAction.openJournal (layout.logs.child journalName) (journalLimit config)
  HostAction.log source .info "JinPage starting up"
  HostAction.log source .info ("Logs directory: " ++ layout.logs.toText)
  let page ← HostAction.ofExcept Failure.parameter
    (Page.build config.applet (some config.preferences))
  let plugins ← HostAction.ofExcept Failure.pluginList page.parameters.plugins
  HostAction.log source .info
    ("Applet page ready: " ++ toString page.parameters.size ++ " parameters, "
      ++ toString plugins.length ++ " plugins")
  return { layout, config, page, store := Store.ofConfig layout config }

/-- A service whose start has been tried, and the host as that left it. Nothing of a start that
fails is the service's. -/
def launch (host : Host) : App × Host :=
  match start.run host with
  | (.ok running, host) => ({ running := some running }, host)
  | (.error _, host) => ({}, host)

/-! The answers. -/

def noPage : Response := .error 500 "Applet page not initialized"

def noPreferences : Response := .error 404 "Preferences are disabled"

def notFound : Response := .error 404 "Not Found"

def methodNotAllowed : Response := .error 405 "Method Not Allowed"

def preferenceError? : Failure → Option Response
  | .username invalid => some (.error 422 invalid.message)
  | .corrupt name => some (.error 422 (Failure.corrupt name).message (.array []))
  | .overrides (.rejected stage violations) =>
      some (.error 422 stage.message (.array (violations.map (·.toJson))))
  | _ => none

def isBroken : Failure → Bool
  | .corrupt _ | .overrides (.rejected ..) => true
  | _ => false

/-- The page as a user has it. Broken preferences are passed over with a warning. -/
def pageFor (running : Running) (user : String) : HostAction Page :=
  if !running.config.preferences.enabled || user = "" then
    return running.page
  else
    tryCatch
      (do
        let overrides ← running.store.load (some user)
        return some overrides)
      (fun failure => do
        if isBroken failure then
          HostAction.log pageSource .warning
            ("Ignoring preferences for " ++ user ++ ": " ++ failure.message)
          return none
        else
          throw failure)
    >>= fun overrides =>
      match overrides with
      | some overrides =>
          HostAction.ofExcept Failure.parameter (running.page.withOverrides overrides)
      | none => return running.page

def answerPage (running : Running) (request : Request) : HostAction Response := do
  let user := trim ((request.parameter? "user").getD "")
  tryCatch (do return .html (← pageFor running user).text) fun failure =>
    match failure with
    | .username invalid => return .error 422 invalid.message
    | failure => throw failure

def parameterItem (entry : String × String) : Json :=
  .object [("name", .string entry.1), ("value", .string entry.2)]

def answerParameters (running : Running) : Response :=
  let entries := running.page.parameters.entries
  .ok (.object
    [("count", .ofNat entries.length), ("items", .array (entries.map parameterItem))])

def pluginItems (index : Nat) : List String → List Json
  | [] => []
  | name :: rest =>
      .object
        [("index", .ofNat index), ("classname", .string name),
         ("short_name", .string (Plugin.shortName name))]
        :: pluginItems (index + 1) rest

def answerPlugins (running : Running) : HostAction Response := do
  let names ← HostAction.ofExcept Failure.pluginList running.page.parameters.plugins
  return .ok (.object
    [("count", .ofNat names.length), ("items", .array (pluginItems 0 names))])

def answerInfo (app : App) : Response :=
  let text (part : Layout → Pathname) : Json :=
    .string (((app.running.map fun running => (part running.layout).toText)).getD "")
  let enabled := (app.running.map fun running => running.config.preferences.enabled).getD false
  .ok (.object
    [("version", .string version), ("jinpage_home", text (·.home)),
     ("prefs_enabled", .bool enabled),
     ("paths",
      .object
        [("config_dir", text (·.config)), ("logs_dir", text (·.logs)),
         ("prefs_dir", text (·.prefs))])])

def preferenceData (user : String) (overrides : Overrides) : Json :=
  .object
    [("username", .string user),
     ("overrides", .object (overrides.map fun entry => (entry.1, .string entry.2)))]

def answering (action : HostAction Response) : HostAction Response :=
  tryCatch action fun failure =>
    match preferenceError? failure with
    | some response => return response
    | none => throw failure

def store? (app : App) : Option Store :=
  match app.running with
  | some running => if running.config.preferences.enabled then some running.store else none
  | none => none

def readPreferences (app : App) (user : String) : HostAction Response :=
  match app.store? with
  | none => return noPreferences
  | some store => answering do
      return .ok (preferenceData user (← store.load (some user)))

def keepPreferences (app : App) (user : String) (request : Request) : HostAction Response :=
  match Body.overrides request with
  | .error (.answer response) => return response
  | .error (.failure failure) => throw failure
  | .ok fields =>
      match app.store? with
      | none => return noPreferences
      | some store =>
          tryCatch
            (do
              let _ ← store.save (some user) (.object fields)
              return none)
            (fun failure =>
              match preferenceError? failure with
              | some response => return some response
              | none => throw failure)
          >>= fun refused =>
            match refused with
            | some response => return response
            | none => do return .ok (preferenceData user (← store.load (some user)))

def whenRunning (app : App) (answer : Running → HostAction Response) : HostAction Response :=
  match app.running with
  | some running => answer running
  | none => return noPage

def answerRoute (app : App) (route : Route) (request : Request) : HostAction Response :=
  match route with
  | .start => return .redirect 302 "/applet"
  | .health => return .json 200 (.object [("status", .string "ok")])
  | .page => app.whenRunning fun running => answerPage running request
  | .parameters => app.whenRunning fun running => return answerParameters running
  | .plugins => app.whenRunning answerPlugins
  | .info => return app.answerInfo
  | .preferences user =>
      if request.method = "PUT" then app.keepPreferences user request
      else app.readPreferences user

def respond (app : App) (request : Request) : HostAction Response :=
  match Route.ofPath? request.path with
  | some route =>
      if request.method ∈ route.methods then app.answerRoute route request
      else return methodNotAllowed
  | none =>
      match Route.redirection? request with
      | some location => return .redirect 307 location
      | none => return notFound

/-- The answer to a request, and the host as it is left. Every answer has a line in the journal, and
a failure its trace behind it. -/
def answer (app : App) (request : Request) (host : Host) : Response × Host :=
  let shown := request.method ++ " " ++ request.shownPath
  match (app.respond request).run host with
  | (.ok response, host) =>
      (response, host.log source .info (shown ++ " - " ++ toString response.status))
  | (.error failure, host) =>
      (.unhandled failure,
        host.log source .error ("Unhandled error on " ++ shown ++ host.trace failure))

end App

end AppletPage
