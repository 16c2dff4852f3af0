import AppletPage.Command.Options
import AppletPage.Host.Layout
import AppletPage.Page.Render
import AppletPage.Service.App

/-! The command that writes a page for hosting without a service. -/

namespace AppletPage.Command

open Text

inductive Outcome where
  | done (output : String)
  | help
  | refused (error : UsageError)
deriving DecidableEq

def parameterListing (page : Page) (plugins : List String) : Json :=
  .object
    [("parameters", .array (page.parameters.entries.map App.parameterItem)),
     ("plugins", .strings plugins)]

/-- The setting that the value of an option stands for; an empty list is shown as such. -/
def settingOf : OptionValue → String
  | .text text => (Pathname.ofText text).toText
  | .emptyList => "[]"

def homeOf (options : Options) (host : Host) : Except FileError Pathname :=
  match options.home with
  | some home => Home.resolve host (some (settingOf home)) .linux
  | none => Home.ofEnvironment host

def loadPage (options : Options) : HostAction Page := do
  let home ← HostAction.ofExcept Failure.file (homeOf options (← get))
  let layout ← Layout.ensure home
  let config ← Layout.loadConfig layout
  HostAction.ofExcept Failure.parameter (Page.build config.applet (some config.preferences))

def exportPage (options : Options) : HostAction String := do
  let page ← loadPage options
  if options.listParameters then
    let plugins ← HostAction.ofExcept Failure.pluginList page.parameters.plugins
    return (parameterListing page plugins).write Json.Style.indented ++ "\n"
  else
    match options.out with
    | none => return page.text
    | some .emptyList => throw .emptyList
    | some (.text out) =>
        let path := Pathname.ofText out
        HostAction.ofFiles do
          FileAction.makeDirectories path.parent
          FileAction.write path page.bytes
        return ""

def run (arguments : List String) : HostAction Outcome :=
  match parse arguments with
  | .error error => return .refused error
  | .ok .help => return .help
  | .ok (.run options) => do return .done (← exportPage options)

end AppletPage.Command
