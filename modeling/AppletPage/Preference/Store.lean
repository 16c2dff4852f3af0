import AppletPage.Host.Layout
import AppletPage.Json.Printer
import AppletPage.Text.Wide

/-! Where the overrides of users are kept: nowhere, or in a directory with one file a user. The
check of overrides is modelled for texts of characters. What it lets through may hold surrogates
outside of pairs in its values, so that the file cannot be written to its end. -/

namespace AppletPage

open Text

inductive Store where
  | disabled
  | directory (path : Pathname)
deriving DecidableEq

structure Saved where
  kept : Bool
  count : Nat := 0
deriving DecidableEq

namespace Store

def source : String := "jinpage.prefs"

def fileName (user : String) : String := user ++ ".json"

def file (directory : Pathname) (user : Option String) : Except User.InvalidName Pathname :=
  match User.check user with
  | .ok user => .ok (directory.child (fileName user))
  | .error invalid => .error invalid

def readOverrides (name : String) (content : Bytes) : Except Failure Overrides :=
  match Layout.readJson content with
  | .error (.json .tooDeep) => .error (.json .tooDeep)
  | .error _ => .error (.corrupt name)
  | .ok value => (Overrides.validate value).mapError Failure.overrides

def load (store : Store) (user : Option String) : HostAction Overrides :=
  match store with
  | .disabled => return []
  | .directory folder => do
      let path ← HostAction.ofExcept Failure.username (file folder user)
      if ← HostAction.exists path then
        let content ← HostAction.read path
        HostAction.ofExcept id (readOverrides path.lastPart content)
      else
        return []

/-! What a user's file holds. -/

def textOf (sorted : Overrides) : String :=
  let fields := sorted.map fun entry => (entry.1, Json.string entry.2)
  (Json.object fields).write Json.Style.indented ++ "\n"

def fileText (overrides : Overrides) : String := textOf (Mapping.sortBy codeOrder overrides)

/-- Overrides as a check lets them through: their values may be any texts. -/
abbrev WideOverrides := List (String × Wide)

def wide (overrides : Overrides) : WideOverrides :=
  overrides.map fun entry => (entry.1, Wide.ofText entry.2)

def quoted (value : Wide) : Wide :=
  .char '"' :: value.rewrite (Json.escapeChar Json.Style.indented.asciiOnly) ++ [.char '"']

/-- The first entry whose value cannot be written, if there is one, and the entries before it. -/
def untilCut : WideOverrides → Overrides × Option (String × Unencodable)
  | [] => ([], none)
  | (name, value) :: rest =>
      match (quoted value).encode with
      | .error error => ([], some (name, error))
      | .ok _ =>
          let (entries, cut) := untilCut rest
          ((name, String.ofList value.chars) :: entries, cut)

/-- What is written of a file before a value that cannot be. -/
structure Cut where
  written : Bytes
  error : Unencodable

def textUntil (entries : Overrides) (name : String) : List Char :=
  let style := Json.Style.indented
  let lines := Json.writeFields style 1 (entries.map fun entry => (entry.1, .string entry.2))
    ++ ',' :: style.newLine 1 ++ Json.writeString style name ++ style.colon
  -- No comma stands before the first entry.
  '{' :: lines.drop 1

def content (overrides : WideOverrides) : Except Cut Bytes :=
  match untilCut (Mapping.sortBy codeOrder overrides) with
  | (entries, none) => .ok (Utf8.encode (textOf entries))
  | (entries, some (name, error)) =>
      .error { written := Utf8.encodeChars (textUntil entries name), error }

def temporaryName (user own : String) : String := "." ++ user ++ "." ++ own ++ ".tmp"

/-- Eight characters are drawn for each such file. Nothing depends on which they are. -/
def drawn : String := "xxxxxxxx"

/-- What stands for the characters where such a file is shown. -/
def shownDrawn : String := "RANDOM"

def accepted (value : Json) : Except Failure Overrides :=
  match value.toMapping with
  | .error error => .error (.mapping error)
  | .ok entries => (Overrides.validateMapping entries).mapError Failure.overrides

/-- Keeps checked overrides in the place of those kept before. The draft of a file that cannot be
written to its end is left behind. -/
def keepChecked (folder : Pathname) (user : Option String) (overrides : WideOverrides) :
    HostAction Saved := do
  let path ← HostAction.ofExcept Failure.username (file folder user)
  let name := user.getD ""
  HostAction.ofFiles (FileAction.makeDirectories folder)
  let place ← HostAction.ofExcept Failure.file ((← get).files.absolute folder)
  let temporary := place.child (temporaryName name drawn)
  let shown := place.child (temporaryName name shownDrawn)
  match content overrides with
  | .ok content => Host.replace temporary shown path content
  | .error cut =>
      HostAction.ofFiles (FileAction.leaveDraft temporary shown cut.written)
      throw (.unencodable cut.error)
  HostAction.log source .info
    ("Saved " ++ toString overrides.length ++ " preference override(s) for " ++ name)
  return { kept := true, count := overrides.length }

def save (store : Store) (user : Option String) (value : Json) : HostAction Saved :=
  match store with
  | .disabled => return { kept := false }
  | .directory folder => do
      let overrides ← HostAction.ofExcept id (accepted value)
      keepChecked folder user (wide overrides)

def ofConfig (layout : Layout) (config : Config) : Store :=
  if config.preferences.enabled then .directory layout.prefs else .disabled

end Store

end AppletPage
