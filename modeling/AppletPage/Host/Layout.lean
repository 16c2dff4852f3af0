import AppletPage.Config.Printer
import AppletPage.Config.Reader
import AppletPage.Host.Home
import AppletPage.Text.Malformed

/-! The directories of a page below its home, and its configuration in them. -/

namespace AppletPage

open Text

structure Layout where
  home : Pathname
  config : Pathname
  logs : Pathname
  prefs : Pathname
deriving DecidableEq

namespace Layout

def configFile (layout : Layout) : Pathname := layout.config.child "page.json"

def ofHome (home : Pathname) : Layout :=
  { home, config := home.child "config", logs := home.child "logs", prefs := home.child "prefs" }

def ensure (home : Pathname) : HostAction Layout := do
  let layout := ofHome home
  HostAction.ofFiles do
    FileAction.makeDirectories layout.home
    FileAction.makeDirectories layout.config
    FileAction.makeDirectories layout.logs
    FileAction.makeDirectories layout.prefs
  return layout

def unifyLineEnds : List Char → List Char
  | '\r' :: '\n' :: rest => '\n' :: unifyLineEnds rest
  | '\r' :: rest => '\n' :: unifyLineEnds rest
  | c :: rest => c :: unifyLineEnds rest
  | [] => []

def readJson (content : Bytes) : Except Failure Json :=
  match Utf8.decodeChars content with
  | .error malformed => .error (.encoding malformed)
  | .ok text => (Json.read (String.ofList (unifyLineEnds text))).mapError Failure.json

def readConfig (content : Bytes) : Except Failure Config :=
  match readJson content with
  | .error failure => .error failure
  | .ok value => (Config.ofJson value).mapError Failure.config

def loadConfig (layout : Layout) : HostAction Config := do
  if ← HostAction.exists layout.configFile then
    let content ← HostAction.read layout.configFile
    HostAction.ofExcept id (readConfig content)
  else
    return {}

def writeConfig (layout : Layout) (config : Config) : HostAction Unit :=
  HostAction.ofFiles do
    FileAction.makeDirectories layout.config
    FileAction.write layout.configFile (Utf8.encode config.fileText)

def directory (host : Host) (home usual : Pathname) (setting : Option String) :
    Except FileError Pathname :=
  match setting with
  | none => .ok usual
  | some text =>
      if trim text = "" then .ok usual
      else do
        let path ← Home.expand host (Pathname.ofText text)
        host.files.resolve (home.join path)

def configured (layout : Layout) (config : Config) : HostAction Layout := do
  let host ← get
  let logs ← HostAction.ofExcept Failure.file
    (directory host layout.home layout.logs config.directories.logs)
  let prefs ← HostAction.ofExcept Failure.file
    (directory host layout.home layout.prefs config.directories.prefs)
  HostAction.ofFiles do
    FileAction.makeDirectories logs
    FileAction.makeDirectories prefs
  return { layout with logs, prefs }

end Layout

end AppletPage
